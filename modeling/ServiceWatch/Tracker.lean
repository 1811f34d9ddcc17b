import ServiceWatch.Config
import ServiceWatch.Observer
import ServiceWatch.Service.Event
import ServiceWatch.Table

/-!
# Trackers

A tracker keeps one value per tracked service, in a slot together with the service's reference. It
is driven by events: `Tracker.apply` takes one, asks or tells the observer at most once, and says
what became of the service. `Tracker.remove` gives one service up and `Tracker.close` all of them,
by ascending number.

Nothing here is hidden: an `Outcome` holds the result, the tracker and the observer's state
afterwards, the callbacks made, and the log. A log line is either the tracker's own `Message` or a
record of the observer; the tracker's name enters only where its own lines are put into words.
-/

namespace ServiceWatch

open Text

/-- What became of an event. -/
inductive Change
  | added
  | declined
  | modified
  | removed
  | ignored
  deriving DecidableEq

/-- The name of a change. -/
def Change.name : Change → String
  | added => "Added"
  | declined => "Declined"
  | modified => "Modified"
  | removed => "Removed"
  | ignored => "Ignored"

/-- What a tracker has to say itself. -/
inductive Message
  | alreadyTracked (id : ServiceId)
  | full (capacity : Nat) (id : ServiceId)
  | failed (id : ServiceId) (fault : Fault)
  | declined (id : ServiceId)
  | tracking (id : ServiceId)
  | ignoring (id : ServiceId)
  | removing (id : ServiceId)
  | notTracked (id : ServiceId)
  | closed (count : Nat)
  deriving DecidableEq

namespace Message

/-- How much a message matters. -/
def level : Message → Level
  | full _ _ => .warn
  | tracking _ => .trace
  | removing _ => .trace
  | _ => .debug

/-- The message in words. -/
def body : Message → String
  | alreadyTracked id => id.label ++ " already tracked"
  | full capacity id =>
    "capacity " ++ toString capacity ++ " reached, declining " ++ id.label
  | failed id fault => "adding " ++ id.label ++ " failed: " ++ fault.message
  | declined id => id.label ++ " declined"
  | tracking id => "tracking " ++ id.label
  | ignoring id => "ignoring change of untracked " ++ id.label
  | removing id => "removing " ++ id.label
  | notTracked id => id.label ++ " was not tracked"
  | closed count => "closed, " ++ toString count ++ " services released"

end Message

/-- A line of a tracker's log. -/
inductive Line
  | own (m : Message)
  | observer (r : Record)
  deriving DecidableEq

/-- The line as a record of a tracker with the given name. -/
def Line.record (name : String) : Line → Record
  | own m => .ofTracker name m.level m.body
  | observer r => r

/-- One call of an observer, with what was given and what came back. -/
inductive Callback (rep : Representation)
  | adding (r : Reference rep.subject) (answer : Except Fault rep.Value)
  | modified (r : Reference rep.subject) (before after : rep.Value)
  | removed (r : Reference rep.subject) (before after : rep.Value)

/-- The reference that a callback was made for. -/
def Callback.reference {rep : Representation} : Callback rep → Reference rep.subject
  | adding r _ => r
  | modified r _ _ => r
  | removed r _ _ => r

/-- What is kept for one service. -/
structure Slot (rep : Representation) where
  reference : Reference rep.subject
  value : rep.Value

/-- The services tracked in one representation. -/
structure Tracker (rep : Representation) where
  config : Config
  slots : Table ServiceId (Slot rep)

/-- What an operation on a tracker comes to. -/
structure Outcome (rep : Representation) (σ α : Type) where
  result : α
  tracker : Tracker rep
  state : σ
  calls : List (Callback rep) := []
  log : List Line := []

/-- The log in words. -/
def Outcome.records {rep : Representation} {σ α : Type} (o : Outcome rep σ α) : List Record :=
  o.log.map (Line.record o.tracker.config.name)

namespace Tracker

variable {rep : Representation} {σ : Type}

/-- The tracker with standard settings, tracking nothing. -/
def new : Tracker rep := ⟨.standard, ∅⟩

/-- A tracker with the given settings, tracking nothing, if they are usable. -/
def withConfig (config : Config) : Except Fault (Tracker rep) :=
  match config.flaw? with
  | some fault => .error fault
  | none => .ok ⟨config, ∅⟩

/-- A tracker with the given settings, whatever they are, tracking nothing. -/
def fresh (config : Config) : Tracker rep := ⟨config, ∅⟩

/-- How many services are tracked. -/
def size (t : Tracker rep) : Nat := t.slots.size

/-- Whether nothing is tracked. -/
def isEmpty (t : Tracker rep) : Bool := t.slots.isEmpty

/-- Whether a service is tracked. -/
def contains (t : Tracker rep) (id : ServiceId) : Bool := t.slots.contains id

/-- The value kept for a service. -/
def get? (t : Tracker rep) (id : ServiceId) : Option rep.Value := (t.slots.get? id).map Slot.value

/-- The numbers of the tracked services, ascending. -/
def ids (t : Tracker rep) : List ServiceId := t.slots.keys

/-- The references of the tracked services, by ascending number. -/
def references (t : Tracker rep) : List (Reference rep.subject) := t.slots.values.map Slot.reference

/-- The better of two slots; of two equally good ones the second. -/
def better (a b : Slot rep) : Slot rep :=
  if compare a.reference b.reference = .gt then a else b

/-- The slot of the service preferred to all others. -/
def highest? (t : Tracker rep) : Option (Slot rep) :=
  match t.slots.values with
  | [] => none
  | slot :: slots => some (slots.foldl better slot)

/-- The capacity, if as many services are tracked. -/
def reached? (t : Tracker rep) : Option Nat := t.config.capacity.filter (· ≤ t.size)

/-- The tracker with a service kept in a slot. -/
def store (t : Tracker rep) (slot : Slot rep) : Tracker rep :=
  { t with slots := t.slots.insert slot.reference.id slot }

/-- The tracker without a service. -/
def drop (t : Tracker rep) (id : ServiceId) : Tracker rep := { t with slots := t.slots.erase id }

/-- Asks the observer what to keep for a service, and keeps it if it is present. -/
def ask (t : Tracker rep) (o : Observer rep σ) (r : Reference rep.subject) (st : σ) :
    Outcome rep σ (Except Fault Change) :=
  let reply := o.adding r st
  let calls := [Callback.adding r reply.answer]
  let said := reply.log.map Line.observer
  match reply.answer with
  | .error fault =>
    ⟨.error fault, t, reply.state, calls, said ++ [.own (.failed r.id fault)]⟩
  | .ok v =>
    if rep.isPresent v then
      ⟨.ok .added, t.store ⟨r, v⟩, reply.state, calls, said ++ [.own (.tracking r.id)]⟩
    else
      ⟨.ok .declined, t, reply.state, calls, said ++ [.own (.declined r.id)]⟩

/-- Takes a service up, unless it is tracked already or there is no room. -/
def add (t : Tracker rep) (o : Observer rep σ) (r : Reference rep.subject) (st : σ) :
    Outcome rep σ (Except Fault Change) :=
  if t.contains r.id then
    ⟨.ok .ignored, t, st, [], [.own (.alreadyTracked r.id)]⟩
  else
    match t.reached? with
    | some capacity => ⟨.ok .declined, t, st, [], [.own (.full capacity r.id)]⟩
    | none => t.ask o r st

/-- Passes a change of a service on; one that is not tracked may be taken up instead. -/
def modify (t : Tracker rep) (o : Observer rep σ) (r : Reference rep.subject) (st : σ) :
    Outcome rep σ (Except Fault Change) :=
  match t.slots.get? r.id with
  | some slot =>
    let reply := o.modified r slot.value st
    let value := rep.settle slot.value reply.answer
    ⟨.ok .modified, t.store ⟨r, value⟩, reply.state, [.modified r slot.value value],
      reply.log.map .observer⟩
  | none =>
    if t.config.trackOnModified then t.add o r st
    else ⟨.ok .ignored, t, st, [], [.own (.ignoring r.id)]⟩

/-- Gives a service up. Says whether it was tracked. -/
def remove (t : Tracker rep) (o : Observer rep σ) (id : ServiceId) (st : σ) :
    Outcome rep σ Bool :=
  match t.slots.get? id with
  | none => ⟨false, t, st, [], []⟩
  | some slot =>
    let reply := o.removed slot.reference slot.value st
    let value := rep.settle slot.value reply.answer
    -- The line of the tracker comes first: the slot is empty before the observer is told.
    ⟨true, t.drop id, reply.state, [.removed slot.reference slot.value value],
      .own (.removing slot.reference.id) :: reply.log.map .observer⟩

/-- Takes an event in. -/
def apply (t : Tracker rep) (o : Observer rep σ) (e : Event rep.subject) (st : σ) :
    Outcome rep σ (Except Fault Change) :=
  match e with
  | .registered r => t.add o r st
  | .modified r => t.modify o r st
  | .unregistering r =>
    let out := t.remove o r.id st
    if out.result then { out with result := .ok .removed }
    else { out with result := .ok .ignored, log := out.log ++ [.own (.notTracked r.id)] }

/-- Gives up the listed services one after the other. Says how many were tracked. -/
def removeAll (t : Tracker rep) (o : Observer rep σ) : List ServiceId → σ → Outcome rep σ Nat
  | [], st => ⟨0, t, st, [], []⟩
  | id :: ids, st =>
    let first := t.remove o id st
    let others := first.tracker.removeAll o ids first.state
    ⟨others.result + first.result.toNat, others.tracker, others.state,
      first.calls ++ others.calls, first.log ++ others.log⟩

/-- Gives everything up, by ascending number. Says how many services were tracked. -/
def close (t : Tracker rep) (o : Observer rep σ) (st : σ) : Outcome rep σ Nat :=
  let out := t.removeAll o t.ids st
  -- Nothing is said about a tracker that was empty.
  if out.result = 0 then out else { out with log := out.log ++ [.own (.closed out.result)] }

/-- The tracker by its name and the numbers of its services. -/
def outline (t : Tracker rep) : Outline :=
  .record "TrackedSlots"
    [("name", .text t.config.name), ("tracked", .list (t.ids.map ServiceId.outline))]

end Tracker

end ServiceWatch
