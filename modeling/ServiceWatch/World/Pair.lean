import ServiceWatch.World

/-!
# Pairs

The representations in use in a session: each names what services are looked up as and what is
kept for them. Beside the representation a pair says how its values are built, changed, compared
and shown (`Treatment`).
-/

namespace ServiceWatch

open Text

/-- A use of a counter, granted for a term or not at all. -/
structure Lease where
  term : Option UInt32
  deriving DecidableEq

/-- A value written down, from which a kept value may be built. -/
inductive Sample
  | nothing
  | number (n : Int)
  | truth (b : Bool)
  | text (s : String)
  deriving DecidableEq

/-- A kept value as it is shown. -/
inductive Shown
  | nothing
  | number (n : Int)
  | truth (b : Bool)
  | text (s : String)
  | offering (o : Offering)

/-- How values of a representation are built, changed, compared and shown. -/
structure Treatment (rep : Representation) where
  build : Offering → Sample → rep.Value
  bump : rep.Value → World → rep.Value × World
  clear : rep.Value → rep.Value
  same : rep.Value → rep.Value → Bool
  shown : rep.Value → Shown
  outline : rep.Value → Outline

/-- What is looked up and what is kept for it. -/
inductive Pair
  | greeter
  | counter
  | sensor
  | impostor
  | settings
  | greeterCounter
  | sensorSettings
  | lease
  | flag
  | option
  | label
  | untyped
  deriving DecidableEq

namespace Pair

/-- The representation of a pair. -/
def rep : Pair → Representation
  | greeter => .sameService .greeter
  | counter => .sameService .counter
  | sensor => .sameService .sensor
  | impostor => .sameService .impostor
  | settings => .sameService .settings
  | greeterCounter => .distinctHandle .greeter .counter
  | sensorSettings => .distinctHandle .sensor .settings
  | lease => .presence .counter "test_support::fixtures::Lease" (Lease.mk none)
      (fun l => l.term.isSome) rfl
  | flag => .presence .sensor "bool" false id rfl
  | option => .presence .sensor "core::option::Option<i64>" (none : Option Int64) Option.isSome rfl
  | label => .presence .settings "core::option::Option<alloc::string::String>"
      (none : Option String) Option.isSome rfl
  | untyped => .wholeOffering

/-- The object a handle points at, as it is shown. -/
def shownHandle {s : Subject} (h : Handle s) : Shown :=
  match h.object with
  | some o => .number o
  | none => .nothing

/-- A contract kept as a handle to itself: the thing behind the handle is what changes. -/
def sameHandle (v : View) (c : Contract) : Treatment (.sameService c) where
  build o _ := o.service c
  bump h w := (h, w.bump v h)
  clear h := h
  same := Handle.pointsWhere
  shown := shownHandle
  outline := Handle.outline

/-- A contract kept as a handle to another one. -/
def otherHandle (v : View) (c target : Contract) : Treatment (.distinctHandle c target) where
  build o _ := o.service target
  bump h w := (h, w.bump v h)
  clear h := h
  same := Handle.pointsWhere
  shown := shownHandle
  outline := Handle.outline

/-- Leases: a bump prolongs a granted one by a hundred. A number below zero grants none. -/
def leases : Treatment lease.rep where
  build _ sample := match sample with
    | .number n => (⟨if n < 0 then none else some (UInt32.ofInt n)⟩ : Lease)
    | _ => (⟨none⟩ : Lease)
  bump (l : Lease) w := ((⟨l.term.map (· + 100)⟩ : Lease), w)
  clear _ := (⟨none⟩ : Lease)
  same (l m : Lease) := l == m
  shown (l : Lease) := match l.term with
    | some n => .number n.toNat
    | none => .nothing
  outline (l : Lease) := .tuple "Lease" [.optional (l.term.map fun n => .number n.toNat)]

/-- Flags: a bump turns one over. -/
def flags : Treatment flag.rep where
  build _ sample := match sample with
    | .truth b => b
    | _ => false
  bump (b : Bool) w := (!b, w)
  clear _ := false
  same (a b : Bool) := a == b
  shown (b : Bool) := .truth b
  outline (b : Bool) := .truth b

/-- Numbers that may be missing: a bump counts one up. A number of more than 64 bits is missing. -/
def numbers : Treatment option.rep where
  build _ sample := match sample with
    | .number n => (some (Int64.ofInt n)).filter fun k => k.toInt = n
    | _ => none
  bump (n : Option Int64) w := (n.map (· + 1), w)
  clear _ := none
  same (m n : Option Int64) := m == n
  shown (n : Option Int64) := match n with
    | some n => .number n.toInt
    | none => .nothing
  outline (n : Option Int64) := .optional (n.map fun n => .number n.toInt)

/-- Texts that may be missing: a bump adds an exclamation mark. -/
def labels : Treatment label.rep where
  build _ sample := match sample with
    | .text s => some s
    | _ => none
  bump (s : Option String) w := (s.map (· ++ "!"), w)
  clear _ := none
  same (s t : Option String) := s == t
  shown (s : Option String) := match s with
    | some s => .text s
    | none => .nothing
  outline (s : Option String) := .optional (s.map .text)

/-- Whole offerings: a bump counts with the counter on offer, if there is one. -/
def offerings : Treatment .wholeOffering where
  build o _ := o
  bump (o : Offering) w := (o, w.bump .counter (o.service .counter))
  clear (o : Offering) := o
  same := Offering.agrees
  shown := .offering
  outline := Offering.outline

/-- How the values of a pair are treated. -/
def treatment : (p : Pair) → Treatment p.rep
  | greeter => sameHandle .greeter .greeter
  | counter => sameHandle .counter .counter
  | sensor => sameHandle .sensor .sensor
  | impostor => sameHandle .impostor .impostor
  | settings => sameHandle .settings .settings
  | greeterCounter => otherHandle .counter .greeter .counter
  | sensorSettings => otherHandle .settings .sensor .settings
  | lease => leases
  | flag => flags
  | option => numbers
  | label => labels
  | untyped => offerings

end Pair

end ServiceWatch
