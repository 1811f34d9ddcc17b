import ServiceWatch.Handle
import ServiceWatch.Table

/-!
# Offerings

An offering lists the interfaces that one registration publishes: at most one entry per interface
id, by ascending id. An entry is either a *boxed* contract, made for publishing an object under
one contract, or a *bare* object that nothing is known of. Each box is a new one, so entries can
be told apart by identity: the box for a boxed entry, the object itself for a bare one.

A contract is found in an offering (`Offering.service`) only where its interface id holds a box of
exactly this contract. Two offerings agree (`Offering.agrees`) when they have the same ids with
identical entries.
-/

namespace ServiceWatch

open Text

/-- What is published under one interface id. -/
inductive Entry
  | boxed (box : Nat) (contract : Contract) (object : ObjectId)
  | bare (object : ObjectId)
  deriving DecidableEq

/-- What tells entries apart. -/
inductive Entry.Identity
  | box (number : Nat)
  | object (id : ObjectId)
  deriving DecidableEq

namespace Entry

/-- The identity of an entry. -/
def identity : Entry → Identity
  | boxed box _ _ => .box box
  | bare object => .object object

/-- The object of an entry, if it was boxed as the contract. -/
def objectAs (c : Contract) : Entry → Option ObjectId
  | boxed _ contract object => if contract = c then some object else none
  | bare _ => none

end Entry

/-- The interfaces of one registration. -/
structure Offering where
  entries : Table String Entry

namespace Offering

/-- The offering without interfaces. -/
def empty : Offering := ⟨∅⟩

/-- How many interfaces are offered. -/
def size (o : Offering) : Nat := o.entries.size

/-- Whether nothing is offered. -/
def isEmpty (o : Offering) : Bool := o.entries.isEmpty

/-- Whether an interface id is offered. -/
def contains (o : Offering) (id : String) : Bool := o.entries.contains id

/-- The offered interface ids, ascending. -/
def interfaceIds (o : Offering) : List String := o.entries.keys

/-- The entry under an interface id. -/
def get? (o : Offering) (id : String) : Option Entry := o.entries.get? id

/-- Offers an entry under an interface id, in place of what was there. -/
def insert (o : Offering) (id : String) (e : Entry) : Offering := ⟨o.entries.insert id e⟩

/-- Offers an object under a contract, in a box with the given number. -/
def publish (o : Offering) (box : Nat) (c : Contract) (object : ObjectId) : Offering :=
  o.insert c.interfaceId (.boxed box c object)

/-- Withdraws an interface id. -/
def erase (o : Offering) (id : String) : Offering := ⟨o.entries.erase id⟩

/-- Withdraws an interface id: the entry that was under it, and what is still offered. -/
def take (o : Offering) (id : String) : Option Entry × Offering := (o.get? id, o.erase id)

/-- The object offered under a contract, as a handle. -/
def service (o : Offering) (c : Contract) : Handle c.subject :=
  ⟨(o.get? c.interfaceId).bind (Entry.objectAs c)⟩

/-- Whether two lists of entries match one by one, in id and identity. -/
def matching : List (String × Entry) → List (String × Entry) → Bool
  | [], [] => true
  | d :: ds, e :: es => d.1 == e.1 && d.2.identity == e.2.identity && matching ds es
  | _, _ => false

/-- Whether two offerings have the same ids with identical entries. -/
def agrees (o p : Offering) : Bool := matching o.entries.entries p.entries.entries

/-- The offered ids as a set. -/
def outline (o : Offering) : Outline := .set (o.interfaceIds.map .text)

/-- Nothing stands in an empty offering. -/
@[simp]
theorem get?_empty (id : String) : Offering.empty.get? id = none := rfl

/-- An entry is found where it was put, and elsewhere what was there before. -/
theorem get?_insert (o : Offering) (id : String) (e : Entry) (id' : String) :
    (o.insert id e).get? id' = if id' = id then some e else o.get? id' :=
  Table.get?_insert o.entries id e id'

/-- Nothing is found where an entry was taken out, and elsewhere what was there before. -/
theorem get?_erase (o : Offering) (id id' : String) :
    (o.erase id).get? id' = if id' = id then none else o.get? id' :=
  Table.get?_erase o.entries id id'

/-- A contract is found exactly where its interface id holds a box of it. -/
theorem service_eq_iff {o : Offering} {c : Contract} {object : ObjectId} :
    o.service c = ⟨some object⟩ ↔ ∃ box, o.get? c.interfaceId = some (.boxed box c object) := by
  rw [service, Handle.mk.injEq, Option.bind_eq_some_iff]
  constructor
  · rintro ⟨entry, found, held⟩
    cases entry with
    | bare _ => cases held
    | boxed box contract _ =>
      rw [Entry.objectAs, Option.ite_none_right_eq_some] at held
      obtain ⟨rfl, same⟩ := held
      cases same
      exact ⟨box, found⟩
  · rintro ⟨box, found⟩
    exact ⟨_, found, if_pos rfl⟩

/-- Taking an entry out answers what stood there. -/
@[simp]
theorem fst_take (o : Offering) (id : String) : (o.take id).1 = o.get? id := rfl

/-- Taking an entry out erases it. -/
@[simp]
theorem snd_take (o : Offering) (id : String) : (o.take id).2 = o.erase id := rfl

end Offering

end ServiceWatch
