import ServiceWatch.Registry.Action

/-!
# Registry runs

A registry as those who use it see it: they send requests one after the other and get an answer to
each. A request is an action, notice that the use of a service is given back, or a question for the
interfaces of a service.
-/

namespace ServiceWatch.Registry

/-- Something to ask of a registry. -/
inductive Request
  | act (a : Action)
  | release (id : ServiceId)
  | interfaces (id : ServiceId)

/-- What a registry answers. -/
inductive Answer
  | reference (r : Option (Reference .untyped))
  | noted
  | interfaces (o : Offering)

/-- Whether the request is to take a registration in. -/
def Request.isRegistration : Request → Bool
  | act a => a.isRegistration
  | _ => false

/-- Answers a request. -/
def serve (g : Registry) : Request → Answer × Registry
  | .act a =>
    let (r, g) := g.act a
    (.reference r, g)
  | .release id => (.noted, g.release id)
  | .interfaces id => (.interfaces (g.offering id), g)

/-- A request with its answer. -/
structure Exchange where
  request : Request
  answer : Answer

namespace Exchange

/-- The reference by which a registration was answered. -/
def registered? : Exchange → Option (Reference .untyped)
  | ⟨.act a, .reference r⟩ => if a.isRegistration then r else none
  | _ => none

/-- Whether a registration was taken out. -/
def isDeparture : Exchange → Bool
  | ⟨.act (.unregister _), .reference r⟩ => r.isSome
  | _ => false

end Exchange

/-- Requests sent one after the other, with their answers. -/
def run (g : Registry) : List Request → List Exchange
  | [] => []
  | q :: qs => ⟨q, (g.serve q).1⟩ :: (g.serve q).2.run qs

/-- The registry after requests sent one after the other. -/
def after (g : Registry) : List Request → Registry
  | [] => g
  | q :: qs => (g.serve q).2.after qs

end ServiceWatch.Registry
