import ServiceWatch.Observer
import ServiceWatch.Text.Outline

/-!
# Layers around observers

An observer can be reached through pointers, which pass every call on, and through recorders,
which note each call and log it before they pass it on. A tower of layers has one list of notes
per recorder; otherwise it is the observer at its base.
-/

namespace ServiceWatch

open Text

/-- A note of one call of an observer. -/
inductive Call
  | adding (id : ServiceId)
  | modified (id : ServiceId)
  | removed (id : ServiceId)
  deriving DecidableEq

namespace Call

/-- The service that the call was about. -/
def id : Call → ServiceId
  | adding id => id
  | modified id => id
  | removed id => id

/-- The call by its kind and its service. -/
def outline : Call → Outline
  | adding id => .tuple "Adding" [id.outline]
  | modified id => .tuple "Modified" [id.outline]
  | removed id => .tuple "Removed" [id.outline]

/-- The record that a recorder makes of a call. -/
def record (c : Call) : Record := ⟨.trace, "recorded " ++ c.outline.compact⟩

end Call

/-- What a recorder remembers, around what the recorded observer does. -/
structure Recorded (σ : Type) where
  inner : σ
  calls : List Call

namespace Recorded

variable {σ α : Type}

/-- A recorder that has heard nothing yet. -/
def fresh (st : σ) : Recorded σ := ⟨st, []⟩

/-- The calls about one service, in order. -/
def callsFor (st : Recorded σ) (id : ServiceId) : List Call :=
  st.calls.filter fun c => c.id = id

/-- Notes a call, then lets it through. -/
def through (st : Recorded σ) (c : Call) (react : σ → Reply σ α) : Reply (Recorded σ) α :=
  let reply := react st.inner
  ⟨reply.answer, ⟨reply.state, st.calls ++ [c]⟩, c.record :: reply.log⟩

end Recorded

/-- The ways to point at an observer. -/
inductive Pointer
  | borrowed
  | boxed
  | shared
  deriving DecidableEq

/-- One layer around an observer. -/
inductive Layer
  | pointer (p : Pointer)
  | recorder
  deriving DecidableEq

/-- The state of an observer in a layer. -/
def Layer.State : Layer → Type → Type
  | .pointer _, σ => σ
  | .recorder, σ => Recorded σ

namespace Observer

variable {rep : Representation} {σ : Type}

/-- The observer as reached through a pointer: every call is passed on. -/
def behind (_ : Pointer) (o : Observer rep σ) : Observer rep σ where
  adding r st := o.adding r st
  modified r v st := o.modified r v st
  removed r v st := o.removed r v st

/-- The observer with every call noted first. -/
def recording (o : Observer rep σ) : Observer rep (Recorded σ) where
  adding r st := st.through (.adding r.id) (o.adding r)
  modified r v st := st.through (.modified r.id) (o.modified r v)
  removed r v st := st.through (.removed r.id) (o.removed r v)

end Observer

/-- The state of an observer in a tower of layers, the outermost first. -/
def Tower : List Layer → Type → Type
  | [], σ => σ
  | l :: ls, σ => l.State (Tower ls σ)

namespace Tower

variable {σ : Type}

/-- A tower around a state, in which no recorder has heard anything yet. -/
def fresh (st : σ) : (ls : List Layer) → Tower ls σ
  | [] => st
  | .pointer _ :: ls => fresh st ls
  | .recorder :: ls => Recorded.fresh (fresh st ls)

/-- The state of the observer at the base. -/
def base : (ls : List Layer) → Tower ls σ → σ
  | [], st => st
  | .pointer _ :: ls, st => base ls st
  | .recorder :: ls, st => base ls (Recorded.inner st)

/-- What each recorder has noted, the outermost first. -/
def notes : (ls : List Layer) → Tower ls σ → List (List Call)
  | [], _ => []
  | .pointer _ :: ls, st => notes ls st
  | .recorder :: ls, st => Recorded.calls st :: notes ls (Recorded.inner st)

end Tower

end ServiceWatch
