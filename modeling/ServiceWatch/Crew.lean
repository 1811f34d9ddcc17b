import Mathlib.Logic.Function.Basic
import ServiceWatch.Watch

/-!
# Crews

Any number of trackers at work on one registry, each with a representation, settings and a standard
observer of its own. The registry is all that they share: what one of them gives back is noted where
the others look up what is on offer.
-/

namespace ServiceWatch

variable {ι : Type}

/-- A registry and the trackers that work on it. -/
structure Crew (rep : ι → Representation) where
  registry : Registry
  tracker : (i : ι) → Tracker (rep i)

namespace Crew

variable {rep : ι → Representation}

/-- Something to do with a crew. -/
inductive Action (rep : ι → Representation)
  | registry (a : Registry.Action)
  | tracker (i : ι) (op : Operation (rep i).subject)

/-- What is seen of an action: the answer of the registry, or what a tracker answered, the callbacks
it made and how it is afterwards. -/
inductive Turn (rep : ι → Representation)
  | registry (r : Option (Reference .untyped))
  | tracker (i : ι) (result : Result) (calls : List (Callback (rep i))) (after : Tracker (rep i))

/-- The crew on an empty registry in which no tracker tracks anything. -/
def fresh (config : ι → Config) : Crew rep := ⟨.empty, fun i => .fresh (config i)⟩

/-- One tracker of the crew at work on the registry. -/
def watch (c : Crew rep) (i : ι) : Watch (rep i) := ⟨c.registry, c.tracker i⟩

variable [DecidableEq ι]

/-- Does one action; each tracker has a name for its observer. -/
def step (c : Crew rep) (name : ι → String) : Action rep → Turn rep × Crew rep
  | .registry a =>
    let (r, g) := c.registry.act a
    (.registry r, { c with registry := g })
  | .tracker i op =>
    let out := (c.watch i).perform (name i) op
    (.tracker i out.result out.calls out.tracker,
      ⟨out.state, Function.update c.tracker i out.tracker⟩)

/-- What is seen of actions done one after the other. -/
def run (c : Crew rep) (name : ι → String) : List (Action rep) → List (Turn rep)
  | [] => []
  | a :: as => (c.step name a).1 :: (c.step name a).2.run name as

/-- The crew after actions done one after the other. -/
def after (c : Crew rep) (name : ι → String) : List (Action rep) → Crew rep
  | [] => c
  | a :: as => (c.step name a).2.after name as

end Crew

end ServiceWatch
