import ServiceWatch.Offering
import ServiceWatch.Service.Reference

/-!
# The registry

A registry in memory. Registrations are numbered from 1 in the order in which they come, and a
number is not given out again. A registration can change its ranking and can leave; what it offers
stays as it was registered. Uses of services that trackers give back are noted in the order in
which they come back.
-/

namespace ServiceWatch

/-- A live registration. -/
structure Registration where
  ranking : Int32
  offering : Offering

/-- The state of a registry. -/
structure Registry where
  issued : UInt64
  live : Table ServiceId Registration
  released : List ServiceId

namespace Registry

/-- A registry that nothing has happened to. -/
def empty : Registry := ⟨0, ∅, []⟩

/-- How many registrations are live. -/
def size (g : Registry) : Nat := g.live.size

/-- Whether no registration is live. -/
def isEmpty (g : Registry) : Bool := g.live.isEmpty

/-- Takes a registration in, under the next number. -/
def register (g : Registry) (offering : Offering) (ranking : Int32) :
    Reference .untyped × Registry :=
  let id : ServiceId := ⟨g.issued + 1⟩
  let live := g.live.insert id ⟨ranking, offering⟩
  (⟨id, ranking⟩, { g with issued := id.number, live := live })

/-- Takes an object in that is offered under one contract only. -/
def registerAs (g : Registry) (box : Nat) (c : Contract) (object : ObjectId) (ranking : Int32) :
    Reference c.subject × Registry :=
  let (r, g) := g.register (Offering.empty.publish box c object) ranking
  (r.cast _, g)

/-- Changes the ranking of a live registration. -/
def setRanking (g : Registry) (id : ServiceId) (ranking : Int32) :
    Option (Reference .untyped × Registry) :=
  (g.live.get? id).map fun entry =>
    (⟨id, ranking⟩, { g with live := g.live.insert id { entry with ranking := ranking } })

/-- Takes a live registration out. -/
def unregister (g : Registry) (id : ServiceId) : Option (Reference .untyped × Registry) :=
  (g.live.get? id).map fun entry => (⟨id, entry.ranking⟩, { g with live := g.live.erase id })

/-- What a registration offers: nothing once it is gone. -/
def offering (g : Registry) (id : ServiceId) : Offering :=
  ((g.live.get? id).map Registration.offering).getD .empty

/-- A live registration offers what it was taken in with. -/
theorem offering_of_live {g : Registry} {id : ServiceId} {entry : Registration}
    (live : g.live.get? id = some entry) : g.offering id = entry.offering := by
  rw [offering, live]
  rfl

/-- A registration that is gone offers nothing. -/
theorem offering_of_gone {g : Registry} {id : ServiceId} (gone : g.live.get? id = none) :
    g.offering id = .empty := by
  rw [offering, gone]
  rfl

/-- Notes that the use of a service is given back. -/
def release (g : Registry) (id : ServiceId) : Registry :=
  { g with released := g.released ++ [id] }

/-- An empty registry offers nothing. -/
@[simp]
theorem offering_empty (id : ServiceId) : Registry.empty.offering id = .empty := rfl

/-- Giving a service back leaves all offers as they are. -/
@[simp]
theorem offering_release (g : Registry) (id id' : ServiceId) :
    (g.release id).offering id' = g.offering id' := rfl

end Registry

end ServiceWatch
