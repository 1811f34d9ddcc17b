import ServiceWatch.Registry
import ServiceWatch.Service.Event

/-!
# Registry actions

The ways in which the registrations of a registry change. An action that applies answers with a
reference, which is what the news of it carries; one that names a registration that is not live
changes nothing and makes no news.
-/

namespace ServiceWatch.Registry

/-- A way to change the registrations. -/
inductive Action
  | register (offering : Offering) (ranking : Int32)
  | registerAs (box : Nat) (c : Contract) (object : ObjectId) (ranking : Int32)
  | setRanking (id : ServiceId) (ranking : Int32)
  | unregister (id : ServiceId)

namespace Action

/-- Whether the action takes a registration in. -/
def isRegistration : Action → Bool
  | register _ _ => true
  | registerAs _ _ _ _ => true
  | _ => false

/-- The news of an action that answered with a reference, for those who look up a subject. -/
def news (s : Subject) (r : Reference .untyped) : Action → Event s
  | register _ _ => .registered (r.cast s)
  | registerAs _ _ _ _ => .registered (r.cast s)
  | setRanking _ _ => .modified (r.cast s)
  | unregister _ => .unregistering (r.cast s)

end Action

/-- The answer of an action and the registry afterwards; no answer leaves the registry as it is. -/
def answered {s : Subject} (g : Registry) :
    Option (Reference s × Registry) → Option (Reference .untyped) × Registry
  | some (r, g) => (some r.erase, g)
  | none => (none, g)

/-- Does an action. -/
def act (g : Registry) : Action → Option (Reference .untyped) × Registry
  | .register offering ranking => g.answered (some (g.register offering ranking))
  | .registerAs box c object ranking => g.answered (some (g.registerAs box c object ranking))
  | .setRanking id ranking => g.answered (g.setRanking id ranking)
  | .unregister id => g.answered (g.unregister id)

/-- No action gives a service back. -/
@[simp]
theorem released_act (g : Registry) (a : Action) : (g.act a).2.released = g.released := by
  cases a with
  | register => rfl
  | registerAs => rfl
  | setRanking id ranking =>
    simp only [act, setRanking]
    cases g.live.get? id <;> rfl
  | unregister id =>
    simp only [act, unregister]
    cases g.live.get? id <;> rfl

end ServiceWatch.Registry
