import ServiceWatch.Representation
import ServiceWatch.Service.Reference

/-!
# Observers

An observer decides what a tracker keeps for a service and is told of the service's further fate.
It carries a state of any type, which stands for all that it remembers and all that it shares with
others; each of its three reactions takes the state and hands it on. What it logs comes with the
reaction.
-/

namespace ServiceWatch

/-- The reaction of an observer: its answer, its state from then on, and the records it made. -/
structure Reply (σ α : Type) where
  answer : α
  state : σ
  log : List Record := []

/-- What a tracker asks and tells about services. -/
structure Observer (rep : Representation) (σ : Type) where
  /-- What to keep for a service that is about to be tracked; an absent value declines it. -/
  adding : Reference rep.subject → σ → Reply σ (Except Fault rep.Value)
  /-- A tracked service changed; answers what the kept value has become. -/
  modified : Reference rep.subject → rep.Value → σ → Reply σ rep.Value
  /-- A service stopped being tracked; answers what its value has become. -/
  removed : Reference rep.subject → rep.Value → σ → Reply σ rep.Value

end ServiceWatch
