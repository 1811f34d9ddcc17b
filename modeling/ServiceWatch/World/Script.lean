import ServiceWatch.World.Pair

/-!
# Scripted observers

An observer that follows a plan for each service: what to answer when the service is to be
tracked, and what to do to its value when it changes and when it goes. It gives every service back
that stops being tracked.
-/

namespace ServiceWatch

/-- What to do to a kept value. -/
inductive Touch
  | nothing
  | bump
  | clear
  deriving DecidableEq

/-- What to answer when a service is to be tracked. -/
inductive Welcome
  | fail (reason : String)
  | refuseConfig (reason : String)
  | decline
  | convert
  | unregister
  | ranked
  | build
  deriving DecidableEq

/-- The plan for a service. -/
structure Plan where
  welcome : Welcome := .build
  sample : Sample := .nothing
  onModified : Touch := .nothing
  onRemoved : Touch := .nothing
  deriving DecidableEq

/-- The plans for services, with one for all those that have none of their own. -/
structure Script where
  fallback : Plan
  services : List (ServiceId × Plan)

/-- The plan for a service. -/
def Script.plan (s : Script) (id : ServiceId) : Plan := (s.services.lookup id).getD s.fallback

namespace Pair

/-- Does to a value what is to be done. -/
def touch (p : Pair) (t : Touch) (v : p.rep.Value) (w : World) : p.rep.Value × World :=
  match t with
  | .nothing => (v, w)
  | .bump => p.treatment.bump v w
  | .clear => (p.treatment.clear v, w)

/-- Answers for a service that is to be tracked, as planned. -/
def welcome (p : Pair) (plan : Plan) (r : Reference p.rep.subject) (w : World) :
    Reply World (Except Fault p.rep.Value) :=
  let build (w : World) : Except Fault p.rep.Value :=
    .ok (p.treatment.build (w.registry.offering r.id) plan.sample)
  match plan.welcome with
  | .fail reason => ⟨.error (.observerFailed r.id reason), w, []⟩
  | .refuseConfig reason => ⟨.error (.unusableConfig reason), w, []⟩
  | .decline => ⟨.ok p.rep.absent, w, []⟩
  | .convert => ⟨p.rep.convert (w.registry.offering r.id), w, p.rep.conversionLog⟩
  | .unregister =>
    match w.registry.unregister r.id with
    | some (_, g) => let w := { w with registry := g }; ⟨build w, w, []⟩
    | none => ⟨build w, w, []⟩
  | .ranked => if r.ranking < 0 then ⟨.ok p.rep.absent, w, []⟩ else ⟨build w, w, []⟩
  | .build => ⟨build w, w, []⟩

/-- The observer that follows a script. -/
def scripted (p : Pair) (s : Script) : Observer p.rep World where
  adding r w := p.welcome (s.plan r.id) r w
  modified r v w :=
    let (v, w) := p.touch (s.plan r.id).onModified v w
    ⟨v, w, []⟩
  removed r v w :=
    let (v, w) := p.touch (s.plan r.id).onRemoved v w
    ⟨v, World.context.release r.id w, []⟩

end Pair

end ServiceWatch
