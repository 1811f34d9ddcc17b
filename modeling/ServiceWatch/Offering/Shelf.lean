import ServiceWatch.Offering

/-!
# Shelves

A shelf holds any number of offerings, by number, all empty at first, and the supply of boxes from
which their entries are made. Its steps are the ways to write an offering: publishing an object
under a contract, putting a box or a bare object under any id, copying an entry of an offering to
any id, removing, clearing, and becoming a copy of another offering. No two boxes of a shelf are
the same.
-/

namespace ServiceWatch

/-- Numbered offerings and the number of the next box. -/
structure Shelf where
  offerings : Table Nat Offering
  nextBox : Nat

/-- A way to write an offering of a shelf. -/
inductive Shelf.Step
  | publish (m : Nat) (c : Contract) (object : ObjectId)
  | box (m : Nat) (id : String) (c : Contract) (object : ObjectId)
  | bare (m : Nat) (id : String) (object : ObjectId)
  | copyEntry (m : Nat) (id : String) (source : Nat) (sourceId : String)
  | remove (m : Nat) (id : String)
  | clear (m : Nat)
  | clone (m : Nat) (source : Nat)
  deriving DecidableEq

namespace Shelf

/-- The shelf with nothing on it. -/
def empty : Shelf := ⟨∅, 0⟩

/-- One offering of the shelf. -/
def offering (s : Shelf) (m : Nat) : Offering := (s.offerings.get? m).getD .empty

/-- The shelf with one offering replaced. -/
def put (s : Shelf) (m : Nat) (o : Offering) : Shelf :=
  { s with offerings := s.offerings.insert m o }

/-- Does one step. -/
def step (s : Shelf) : Step → Shelf
  | .publish m c object =>
    { s.put m ((s.offering m).publish s.nextBox c object) with nextBox := s.nextBox + 1 }
  | .box m id c object =>
    { s.put m ((s.offering m).insert id (.boxed s.nextBox c object)) with
      nextBox := s.nextBox + 1 }
  | .bare m id object => s.put m ((s.offering m).insert id (.bare object))
  | .copyEntry m id source sourceId =>
    match (s.offering source).get? sourceId with
    | some e => s.put m ((s.offering m).insert id e)
    | none => s
  | .remove m id => s.put m ((s.offering m).erase id)
  | .clear m => s.put m .empty
  | .clone m source => s.put m (s.offering source)

/-- Does steps one after the other. -/
def run (s : Shelf) (steps : List Step) : Shelf := steps.foldl step s

end Shelf

end ServiceWatch
