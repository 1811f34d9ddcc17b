import ServiceWatch.Offering

/-!
# Things

The shared objects of a small world to run trackers in. A *plain* thing greets and counts its
greetings, a *tally* counts, a *probe* has a reading, *settings* hold a text, and a byte or a text
is just there. A `View` is what a thing can be used as; using it through a view (`Thing.call`) may
change it, and so does a bump.
-/

namespace ServiceWatch

namespace Contract

/-- Greets by name. -/
def greeter : Contract := ⟨"test.Greeter", "dyn test_support::fixtures::Greeter"⟩

/-- Counts upwards. -/
def counter : Contract := ⟨"test.Counter", "dyn test_support::fixtures::Counter"⟩

/-- Reads a number off. -/
def sensor : Contract := ⟨"org.example.Sensor", "dyn oracle_driver::world::Sensor"⟩

/-- Claims the interface id of greeters for something else. -/
def impostor : Contract := ⟨"test.Greeter", "dyn oracle_driver::world::Impostor"⟩

/-- Holds a text; a contract of one type of things only. -/
def settings : Contract := ⟨"Ünïcode.Settings", "oracle_driver::world::Settings"⟩

end Contract

/-- What a thing can be used as. -/
inductive View
  | greeter
  | counter
  | sensor
  | impostor
  | settings
  | anything
  deriving DecidableEq

namespace View

/-- The contract of a view; what everything can be used as is not a contract. -/
def contract? : View → Option Contract
  | greeter => some .greeter
  | counter => some .counter
  | sensor => some .sensor
  | impostor => some .impostor
  | settings => some .settings
  | anything => none

/-- The subject of services looked up as the view. -/
def subject : View → Subject
  | greeter => Contract.greeter.subject
  | counter => Contract.counter.subject
  | sensor => Contract.sensor.subject
  | impostor => Contract.impostor.subject
  | settings => Contract.settings.subject
  | anything => ⟨"dyn core::any::Any + core::marker::Send + core::marker::Sync"⟩

/-- All views. -/
def all : List View := [greeter, counter, sensor, impostor, settings, anything]

/-- The view of a contract. -/
def ofContract? (c : Contract) : Option View := all.find? fun v => v.contract? = some c

end View

/-- A shared object with its state. -/
inductive Thing
  | plain (greetings : Nat)
  | tally (count : Nat)
  | probe (reading : Int64)
  | settings (text : String)
  | byte (n : UInt8)
  | text (s : String)
  deriving DecidableEq

/-- What a thing says. -/
inductive Utterance
  | text (s : String)
  | number (n : Int)
  | numbers (ns : List Nat)
  | truth (b : Bool)
  deriving DecidableEq

namespace Thing

/-- Whether a thing can be used as the view. -/
def shows : Thing → View → Bool
  | plain _, .greeter => true
  | plain _, .counter => true
  | tally _, .counter => true
  | probe _, .sensor => true
  | probe _, .impostor => true
  | settings _, .settings => true
  | _, .anything => true
  | _, _ => false

/-- Uses a thing through a view: what it says, and the thing afterwards. -/
def call : Thing → View → Option (Utterance × Thing)
  | plain n, .greeter => some (.text "hello, ada", plain (n + 1))
  | plain n, .counter => some (.numbers [n + 1, n + 1], plain (n + 1))
  | tally n, .counter => some (.numbers [n + 1, n + 1], tally (n + 1))
  | probe n, .sensor => some (.number n.toInt, probe n)
  | probe n, .impostor => some (.number (-n).toInt, probe n)
  | settings s, .settings => some (.text s, settings s)
  | plain n, .anything => some (.truth true, plain n)
  | t, .anything => some (.truth false, t)
  | _, _ => none

/-- Changes a thing through a view, where the view allows it. -/
def bump : Thing → View → Thing
  | plain n, .greeter => plain (n + 1)
  | plain n, .counter => plain (n + 1)
  | tally n, .counter => tally (n + 1)
  | probe n, .sensor => probe (n + 1)
  | t, _ => t

/-- The state of a thing. -/
def state : Thing → Utterance
  | plain n => .number n
  | tally n => .number n
  | probe n => .number n.toInt
  | settings s => .text s
  | byte n => .number n.toNat
  | text s => .text s

end Thing

/-- Things by number, from 0. -/
abbrev Things := List Thing

namespace Things

/-- Whether there is such a thing and it can be used as the view. -/
def offers (ts : Things) (v : View) (o : ObjectId) : Bool :=
  match ts[o]? with
  | some t => t.shows v
  | none => false

/-- Uses a thing through a view. -/
def call (ts : Things) (v : View) (o : ObjectId) : Option Utterance × Things :=
  match ts[o]?.bind fun t => t.call v with
  | some (said, t) => (some said, ts.set o t)
  | none => (none, ts)

/-- Bumps a thing through a view. -/
def bump (ts : Things) (v : View) (o : ObjectId) : Things := ts.modify o fun t => t.bump v

/-- The states of all things. -/
def states (ts : Things) : List Utterance := ts.map Thing.state

end Things

end ServiceWatch
