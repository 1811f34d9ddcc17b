import ServiceWatch.Observer
import ServiceWatch.Registry

/-!
# The standard observer

Where a representation can be read off an offering, no observer of one's own is needed: the
standard one asks the registry what a service offers, keeps what the representation makes of it,
and gives the service back when it stops being tracked. It sees the registry through a `Context`.
-/

namespace ServiceWatch

/-- A registry as an observer sees it. -/
structure Context (σ : Type) where
  /-- What a registration offers at the moment. -/
  offering : ServiceId → σ → Offering × σ
  /-- Gives the use of a service back. -/
  release : ServiceId → σ → σ

namespace Context

variable {σ τ : Type}

/-- A registry that takes no notice of what is given back. -/
def heedless (offering : ServiceId → σ → Offering × σ) : Context σ :=
  ⟨offering, fun _ st => st⟩

/-- The same context with releases lost. -/
def silenced (c : Context σ) : Context σ := heedless c.offering

/-- A context that is part of something larger. -/
def within (c : Context σ) (part : τ → σ) (update : σ → τ → τ) : Context τ where
  offering id st :=
    let (offering, inner) := c.offering id (part st)
    (offering, update inner st)
  release id st := update (c.release id (part st)) st

end Context

/-- A registry in memory as a context. -/
def Registry.context : Context Registry where
  offering id g := (g.offering id, g)
  release id g := g.release id

namespace Observer

variable {rep : Representation} {σ : Type}

/-- The records of the standard observer on a value it made: that it is of no use, if so. -/
def usefulness (rep : Representation) (name : String) (r : Reference rep.subject) (o : Offering)
    (v : rep.Value) : List Record :=
  if rep.isPresent v then []
  else [.ofTracker name .debug
    (r.label ++ " publishes nothing usable (" ++ toString o.size ++ " interfaces)")]

/-- The observer that keeps whatever the registry offers, and names itself in its records. -/
def standard (rep : Representation) (context : Context σ) (name : String) : Observer rep σ where
  adding r st :=
    let (offering, st) := context.offering r.id st
    match rep.convert offering with
    | .error fault => ⟨.error fault, st, rep.conversionLog⟩
    | .ok v => ⟨.ok v, st, rep.conversionLog ++ usefulness rep name r offering v⟩
  modified r v st := ⟨v, st, [.ofTracker name .trace (r.label ++ " modified")]⟩
  removed r v st :=
    ⟨v, context.release r.id st, [.ofTracker name .trace ("releasing " ++ r.label)]⟩

/-- The name of a standard observer that is given none. -/
def standardName : String := "tracker"

section Standard

variable (context : Context σ) (name : String) (r : Reference rep.subject) (v : rep.Value) (st : σ)

/-- A service is answered by what its offering converts to. -/
theorem answer_adding_standard :
    ((standard rep context name).adding r st).answer =
      rep.convert (context.offering r.id st).1 := by
  simp only [standard]
  split <;> simp_all

/-- Asking about a service looks at what it offers. -/
theorem state_adding_standard :
    ((standard rep context name).adding r st).state = (context.offering r.id st).2 := by
  simp only [standard]
  split <;> rfl

/-- A change leaves the value as it is. -/
@[simp]
theorem answer_modified_standard : ((standard rep context name).modified r v st).answer = v := rfl

/-- A change is nothing to the context. -/
@[simp]
theorem state_modified_standard : ((standard rep context name).modified r v st).state = st := rfl

/-- A service that is removed is given back to the context. -/
@[simp]
theorem state_removed_standard :
    ((standard rep context name).removed r v st).state = context.release r.id st := rfl

end Standard

end Observer

end ServiceWatch
