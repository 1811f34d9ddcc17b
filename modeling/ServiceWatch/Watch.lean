import ServiceWatch.Observer.Standard
import ServiceWatch.Registry.Action
import ServiceWatch.Tracker.Run

/-!
# Watches

A watch is a tracker at work on a registry: the standard observer answers for it, so that what is
kept comes from the registry and what is given up goes back to it. Its actions are those of the
registry and the operations of the tracker, in any order; the events that are applied need not
agree with the registry.
-/

namespace ServiceWatch

/-- A registry and a tracker that works on it. -/
structure Watch (rep : Representation) where
  registry : Registry
  tracker : Tracker rep

namespace Watch

/-- Something to do with a watch. -/
inductive Action (s : Subject)
  | registry (a : Registry.Action)
  | tracker (op : Operation s)

/-- What an action answers. -/
inductive Answer
  | registry (r : Option (Reference .untyped))
  | tracker (r : Result)

variable {rep : Representation}

/-- The watch on an empty registry by a tracker that tracks nothing. -/
def fresh (config : Config) : Watch rep := ⟨.empty, .fresh config⟩

/-- What an operation of the tracker comes to under the standard observer of the given name. -/
def perform (w : Watch rep) (name : String) (op : Operation rep.subject) :
    Outcome rep Registry Result :=
  w.tracker.perform (.standard rep Registry.context name) op w.registry

/-- Does one action. -/
def step (w : Watch rep) (name : String) : Action rep.subject → Answer × Watch rep
  | .registry a =>
    let (r, g) := w.registry.act a
    (.registry r, { w with registry := g })
  | .tracker op =>
    let out := w.perform name op
    (.tracker out.result, ⟨out.state, out.tracker⟩)

/-- One action as it went: what was done, what it answered, and the watch before and after. -/
structure Turn (rep : Representation) where
  action : Action rep.subject
  answer : Answer
  before : Watch rep
  after : Watch rep

/-- One action as it goes. -/
def turn (w : Watch rep) (name : String) (a : Action rep.subject) : Turn rep :=
  let (answer, after) := w.step name a
  ⟨a, answer, w, after⟩

/-- Actions done one after the other, as they go. -/
def run (w : Watch rep) (name : String) : List (Action rep.subject) → List (Turn rep)
  | [] => []
  | a :: as => w.turn name a :: (w.turn name a).after.run name as

/-- The watch after actions done one after the other. -/
def after (w : Watch rep) (name : String) : List (Action rep.subject) → Watch rep
  | [] => w
  | a :: as => (w.turn name a).after.after name as

end Watch

end ServiceWatch
