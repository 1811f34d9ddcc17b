import ServiceWatch.Config.Document
import ServiceWatch.Observer.Layer
import ServiceWatch.Tracker.Run
import ServiceWatch.World.Script

/-!
# Sessions

A session is one world with any number of trackers in it, each with an observer of its own behind
a recorder. Its steps work on the registry or on one of the trackers; the report of a tracker's
step shows the tracker afterwards, the callbacks made and the log. A tracker whose settings cannot
be read or used, or whose observer does not exist, is not there for the steps.
-/

namespace ServiceWatch

/-- How an observer is handed to a tracker. -/
inductive Passing
  | itself
  | behind (p : Pointer)
  | dynamic
  deriving DecidableEq

/-- The observer behind a recorder, as handed to a tracker. -/
def Passing.wrap {rep : Representation} {σ : Type} (p : Passing) (o : Observer rep σ) :
    Observer rep (Recorded σ) :=
  match p with
  | itself => o.recording
  | behind pointer => o.recording.behind pointer
  | dynamic => o.recording.behind .borrowed

/-- The observer asked for. -/
inductive Choice
  | standard (name : Option String) (silent : Bool)
  | scripted (s : Script)

/-- The settings asked for. -/
inductive Settings
  | unsaid
  | given (c : Config)
  | written (text : String)

/-- A tracker to be set up. -/
structure Order where
  pair : Pair
  passing : Passing
  choice : Choice
  settings : Settings

/-- Why a tracker is not set up. -/
inductive Refusal
  | unreadableSettings
  | noStandardObserver
  | fault (f : Fault)
  deriving DecidableEq

/-- A tracker that is set up, with its observer and the calls noted so far. -/
structure Post where
  pair : Pair
  tracker : Tracker pair.rep
  observer : Observer pair.rep (Recorded World)
  calls : List Call

/-- The observer asked for; the standard one only where values can be read off offerings. -/
def Order.observer? (o : Order) : Option (Observer o.pair.rep World) :=
  match o.choice with
  | .scripted s => some (o.pair.scripted s)
  | .standard name silent =>
    if o.pair.rep.isDerived then
      let context := if silent then World.context.silenced else World.context
      some (.standard o.pair.rep context (name.getD Observer.standardName))
    else none

/-- The tracker asked for, tracking nothing yet. -/
def Order.tracker (o : Order) : Except Refusal (Tracker o.pair.rep) :=
  match o.settings with
  | .unsaid => .ok .new
  | .given c => (Tracker.withConfig c).mapError .fault
  | .written text =>
    match Config.read text with
    | .ok c => (Tracker.withConfig c).mapError .fault
    | .error _ => .error .unreadableSettings

/-- Sets a tracker up. The observer is looked for first: the settings of a tracker that no observer
exists for are not read. -/
def Order.setUp (o : Order) : Except Refusal Post :=
  match o.observer? with
  | none => .error .noStandardObserver
  | some observer => o.tracker.map fun tracker => ⟨o.pair, tracker, o.passing.wrap observer, []⟩

/-- What a session says of a kept service: its number, its ranking and its value. -/
structure Kept where
  id : ServiceId
  ranking : Int32
  value : Shown

/-- A callback as a session shows it, with the value as it was before. -/
inductive Seen
  | adding (id : ServiceId) (ranking : Int32)
  | modified (k : Kept)
  | removed (k : Kept)

/-- What a step answers. -/
inductive Answer
  | nothing
  | unsupported
  | noTracker
  | reference (id : ServiceId) (ranking : Int32)
  | offering (o : Offering)
  | registry (size : Nat) (isEmpty : Bool) (released : List ServiceId)
  | things (states : List Utterance)
  | change (c : Change)
  | fault (f : Fault)
  | truth (b : Bool)
  | count (n : Nat)
  | lookup (contains : Bool) (value : Shown)
  | kept (k : Kept)
  | texts (compact pretty : String)
  | calls (cs : List Call)
  | config (c : Config)

/-- A tracker and what happened in it, as a session shows them. -/
structure Sight where
  kept : List Kept
  size : Nat
  isEmpty : Bool
  seen : List Seen
  log : List Record

/-- The report of a step; a step on a tracker comes with the sight of it. -/
structure Report where
  answer : Answer
  sight : Option Sight := none

/-- A step on the registry. -/
inductive RegistryStep
  | publish (ps : List Posting) (ranking : Int32)
  | publishAs (v : View) (o : ObjectId) (ranking : Int32)
  | setRanking (id : ServiceId) (ranking : Int32)
  | withdraw (id : ServiceId)
  | interfaces (id : ServiceId)
  | summary
  | things

/-- The kinds of news, before it is known what they are about. -/
inductive News
  | registered
  | modified
  | unregistering
  deriving DecidableEq

/-- The news about a reference. -/
def News.event {s : Subject} : News → Reference s → Event s
  | registered, r => .registered r
  | modified, r => .modified r
  | unregistering, r => .unregistering r

/-- A step on a tracker. -/
inductive TrackerStep
  | event (news : News) (id : ServiceId) (ranking : Int32)
  | remove (id : ServiceId)
  | close
  | get (id : ServiceId)
  | highest
  | outline
  | calls
  | callsFor (id : ServiceId)
  | config

/-- A step of a session. -/
inductive Step
  | registry (s : RegistryStep)
  | tracker (t : Nat) (s : TrackerStep)

/-- The answer that a registry gives with a reference, if any, and the registry afterwards. -/
def World.referring {s : Subject} (w : World) : Option (Reference s × Registry) → Answer × World
  | some (r, g) => (.reference r.id r.ranking, { w with registry := g })
  | none => (.nothing, w)

/-- Does a step on the registry. -/
def World.step (w : World) : RegistryStep → Answer × World
  | .publish ps ranking =>
    let (o, w) := w.offer ps
    w.referring (some (w.registry.register o ranking))
  | .publishAs v o ranking =>
    match v.contract? with
    | some c =>
      if w.things.offers v o then
        { w with nextBox := w.nextBox + 1 }.referring
          (some (w.registry.registerAs w.nextBox c o ranking))
      else (.unsupported, w)
    | none => (.unsupported, w)
  | .setRanking id ranking => w.referring (w.registry.setRanking id ranking)
  | .withdraw id => w.referring (w.registry.unregister id)
  | .interfaces id => (.offering (w.registry.offering id), w)
  | .summary => (.registry w.registry.size w.registry.isEmpty w.registry.released, w)
  | .things => (.things w.things.states, w)

namespace Post

/-- A slot as it is shown. -/
def keptOf (p : Pair) (slot : Slot p.rep) : Kept :=
  ⟨slot.reference.id, slot.reference.ranking, p.treatment.shown slot.value⟩

/-- A callback as it is shown. -/
def seenOf (p : Pair) : Callback p.rep → Seen
  | .adding r _ => .adding r.id r.ranking
  | .modified r before _ => .modified (keptOf p ⟨r, before⟩)
  | .removed r before _ => .removed (keptOf p ⟨r, before⟩)

/-- A tracker as it is shown, with callbacks and log. -/
def sight (p : Post) (seen : List Seen) (log : List Record) : Sight :=
  ⟨p.tracker.slots.values.map (keptOf p.pair), p.tracker.size, p.tracker.isEmpty, seen, log⟩

/-- Takes over what an operation came to. -/
def settle {α : Type} (p : Post) (answer : α → Answer)
    (out : Outcome p.pair.rep (Recorded World) α) : Report × Post × World :=
  let post : Post := { p with tracker := out.tracker, calls := out.state.calls }
  (⟨answer out.result, some (post.sight (out.calls.map (seenOf p.pair)) out.records)⟩, post,
    out.state.inner)

/-- Answers a question that changes nothing. -/
def look (p : Post) (w : World) (answer : Answer) : Report × Post × World :=
  (⟨answer, some (p.sight [] [])⟩, p, w)

/-- What an applied event answers. -/
def applied : Except Fault Change → Answer
  | .ok c => .change c
  | .error f => .fault f

/-- Does a step on a tracker. -/
def step (p : Post) (w : World) : TrackerStep → Report × Post × World
  | .event news id ranking =>
    p.settle applied (p.tracker.apply p.observer (news.event ⟨id, ranking⟩) ⟨w, p.calls⟩)
  | .remove id => p.settle .truth (p.tracker.remove p.observer id ⟨w, p.calls⟩)
  | .close => p.settle .count (p.tracker.close p.observer ⟨w, p.calls⟩)
  | .get id =>
    let value := match p.tracker.get? id with
      | some v => p.pair.treatment.shown v
      | none => .nothing
    p.look w (.lookup (p.tracker.contains id) value)
  | .highest =>
    match p.tracker.highest? with
    | some slot => p.look w (.kept (keptOf p.pair slot))
    | none => p.look w .nothing
  | .outline => p.look w (.texts p.tracker.outline.compact p.tracker.outline.pretty)
  | .calls => p.look w (.calls p.calls)
  | .callsFor id => p.look w (.calls (Recorded.callsFor ⟨w, p.calls⟩ id))
  | .config => p.look w (.config p.tracker.config)

end Post

/-- A world with its trackers; one that could not be set up is not there. -/
structure Session where
  world : World
  posts : List (Except Refusal Post)

namespace Session

/-- Opens a session. -/
def start (ts : Things) (orders : List Order) : Session :=
  ⟨.ofThings ts, orders.map Order.setUp⟩

/-- Does one step. -/
def step (s : Session) : Step → Report × Session
  | .registry r =>
    let (answer, w) := s.world.step r
    (⟨answer, none⟩, { s with world := w })
  | .tracker t r =>
    match s.posts[t]? with
    | some (.ok p) =>
      let (report, p, w) := p.step s.world r
      (report, ⟨w, s.posts.set t (.ok p)⟩)
    | _ => (⟨.noTracker, none⟩, s)

/-- Does steps one after the other. -/
def run (s : Session) : List Step → List Report × Session
  | [] => ([], s)
  | r :: rs =>
    let (report, s) := s.step r
    let (reports, s) := s.run rs
    (report :: reports, s)

end Session

end ServiceWatch
