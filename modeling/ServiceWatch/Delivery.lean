import ServiceWatch.Watch

/-!
# Delayed delivery

A registry and a tracker that are told apart: what changes in the registry is news, and news takes
its time. An action of the registry puts its news in flight; to deliver a service is to have the
tracker take in the oldest news of it. News of one service arrives in the order in which it was
made, and news of different services in any order.
-/

namespace ServiceWatch

namespace Registry

/-- The news that an action makes, for those who look up a subject: at most one event. -/
def news (s : Subject) (g : Registry) (a : Action) : List (Event s) :=
  ((g.act a).1.map fun r => a.news s r).toList

end Registry

/-- A watch with the news that is in flight, the oldest first. -/
structure Delivery (rep : Representation) extends Watch rep where
  inFlight : List (Event rep.subject)

namespace Delivery

/-- Something that happens to a watch whose news takes its time. -/
inductive Action
  | registry (a : Registry.Action)
  | deliver (id : ServiceId)

/-- Whether a registration comes in. -/
def Action.isRegistration : Action → Bool
  | registry a => a.isRegistration
  | deliver _ => false

variable {rep : Representation}

/-- Nothing is registered, tracked or in flight. -/
def fresh (config : Config) : Delivery rep := ⟨.fresh config, []⟩

/-- The news in flight about one service, the oldest first. -/
def pending (d : Delivery rep) (id : ServiceId) : List (Event rep.subject) :=
  d.inFlight.filter fun e => e.id = id

/-- Lets one thing happen. A service that nothing is in flight about has nothing to deliver. -/
def step (d : Delivery rep) (name : String) : Action → Delivery rep
  | .registry a =>
    ⟨(d.turn name (.registry a)).after, d.inFlight ++ d.registry.news rep.subject a⟩
  | .deliver id =>
    match d.pending id with
    | [] => d
    | e :: _ =>
      ⟨(d.turn name (.tracker (.apply e))).after, d.inFlight.eraseP fun e => e.id = id⟩

/-- Lets things happen one after the other. -/
def after (d : Delivery rep) (name : String) : List Action → Delivery rep
  | [] => d
  | a :: as => (d.step name a).after name as

/-- Delivers what is in flight, the oldest first. -/
def settle (d : Delivery rep) (name : String) : Delivery rep :=
  d.after name (d.inFlight.map fun e => .deliver e.id)

end Delivery

end ServiceWatch
