import ServiceWatch.Observer.Standard
import ServiceWatch.World.Thing

/-!
# Registries by remainder

A registry that offers, for every number, as many interfaces as the remainder of that number by a
modulus. Nothing is remembered but the supply of objects: every offering is made of new ones.
-/

namespace ServiceWatch

open Text

/-- A registry with a modulus. -/
structure Modular where
  modulus : Nat

namespace Modular

/-- An offering of so many interfaces, made of the objects from a given one on. -/
def offering (count next : Nat) : Offering :=
  (List.range count).foldl (fun o i => o.insert ("if" ++ toString i) (.bare (next + i))) .empty

/-- The registry as an observer sees it, with the next object as state. -/
def context (m : Modular) : Context Nat :=
  .heedless fun id next =>
    let count := id.number.toNat % m.modulus
    (offering count next, next + count)

/-- The registry by its modulus. -/
def outline (m : Modular) : Outline := .tuple "Modular" [.number m.modulus]

/-- The standard observer of the registry under a name. -/
def observerOutline (m : Modular) (name : String) : Outline :=
  .record "DefaultCustomizer" [("context", m.outline), ("name", .text name)]

/-- What a standard observer of the registry makes of one reference. -/
structure Visit where
  offering : Offering
  repeatable : Bool
  greeterIsNull : Bool
  log : List Record

/-- A value was added, changed and removed: what came of it, all records, and the state after. -/
def lifecycle {rep : Representation} {σ : Type} (o : Observer rep σ) (r : Reference rep.subject)
    (st : σ) : Except Fault rep.Value × List Record × σ :=
  let added := o.adding r st
  match added.answer with
  | .error fault => (.error fault, added.log, added.state)
  | .ok v =>
    let changed := o.modified r v added.state
    let gone := o.removed r (rep.settle v changed.answer) changed.state
    (.ok v, added.log ++ changed.log ++ gone.log, gone.state)

/-- Has a reference looked up as nothing in particular and as a greeter. -/
def visit (m : Modular) (name : String) (r : Reference .untyped) (next : Nat) : Visit × Nat :=
  let whole := lifecycle (.standard .wholeOffering m.context name) r next
  let greeter :=
    lifecycle (.standard (.sameService .greeter) m.context name) (r.cast _) whole.2.2
  let (first, next) := m.context.offering r.id greeter.2.2
  let (second, next) := m.context.offering r.id next
  let isNull := match greeter.1 with
    | .ok h => Handle.isNull h
    | .error _ => true
  (⟨first, first.agrees second, isNull, whole.2.1 ++ greeter.2.1⟩, next)

/-- Visits references one after the other. -/
def visits (m : Modular) (name : String) : List (Reference .untyped) → Nat → List Visit
  | [], _ => []
  | r :: rs, next =>
    let (v, next) := m.visit name r next
    v :: m.visits name rs next

end Modular

end ServiceWatch
