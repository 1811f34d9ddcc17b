import ServiceWatch.Tracker

/-!
# Runs

A run is a sequence of operations on one tracker, each with the observer's state as the one before
left it. `Tracker.run` gives the outcome of every operation.
-/

namespace ServiceWatch

/-- Something to do with a tracker. -/
inductive Operation (s : Subject)
  | apply (e : Event s)
  | remove (id : ServiceId)
  | close
  deriving DecidableEq

/-- The service that an operation is about; closing is about no one in particular. -/
def Operation.id? {s : Subject} : Operation s → Option ServiceId
  | apply e => some e.id
  | remove id => some id
  | close => none

/-- What an operation answers. -/
inductive Result
  | applied (change : Except Fault Change)
  | removed (found : Bool)
  | closed (count : Nat)

namespace Outcome

variable {rep : Representation} {σ α β : Type}

/-- The same outcome with its result seen differently. -/
def map (f : α → β) (o : Outcome rep σ α) : Outcome rep σ β :=
  ⟨f o.result, o.tracker, o.state, o.calls, o.log⟩

end Outcome

namespace Tracker

variable {rep : Representation} {σ : Type}

/-- Does one operation. -/
def perform (t : Tracker rep) (o : Observer rep σ) (op : Operation rep.subject) (st : σ) :
    Outcome rep σ Result :=
  match op with
  | .apply e => (t.apply o e st).map .applied
  | .remove id => (t.remove o id st).map .removed
  | .close => (t.close o st).map .closed

/-- The outcomes of operations done one after the other. -/
def run (t : Tracker rep) (o : Observer rep σ) :
    List (Operation rep.subject) → σ → List (Outcome rep σ Result)
  | [], _ => []
  | op :: ops, st =>
    let out := t.perform o op st
    out :: out.tracker.run o ops out.state

/-- The callbacks made in operations done one after the other. -/
def calls (t : Tracker rep) (o : Observer rep σ) (ops : List (Operation rep.subject)) (st : σ) :
    List (Callback rep) :=
  (t.run o ops st).flatMap Outcome.calls

/-- The tracker and the observer's state after operations done one after the other. -/
def after (t : Tracker rep) (o : Observer rep σ) :
    List (Operation rep.subject) → σ → Tracker rep × σ
  | [], st => (t, st)
  | op :: ops, st =>
    let out := t.perform o op st
    out.tracker.after o ops out.state

end Tracker

end ServiceWatch
