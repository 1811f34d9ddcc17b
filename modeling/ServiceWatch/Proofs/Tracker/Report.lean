import Mathlib.Data.List.Forall2
import ServiceWatch.Proofs.Tracker.Answers
import ServiceWatch.Proofs.Tracker.Closing

/-!
# Reports

What a tracker has to say in its own name. Of an event it makes one record, at a level that goes
with the answer (`Intake.levels_eq`), and none if the observer is told of a change. Its record stands
behind those of an observer that is asked (`Intake.records_of_asked`), and in front of those of one
that is told of a removal (`Intake.records_of_removed`).

The name of a tracker is put in front of its own records and used for nothing else: a tracker by
another name goes the same way, and their logs are the same lines under two names (`run_renamed`).
-/

namespace ServiceWatch

variable {rep : Representation} {σ α : Type}

/-- The record that a line is, if it is the tracker's own. -/
def Line.own? (name : String) : Line → Option Record
  | own m => some ((own m).record name)
  | observer _ => none

/-- The level at which a tracker makes a record of an answer, if it does. What it declines because
it is full is worth a warning. -/
def answerLevel? (full : Bool) : Except Fault Change → Option Level
  | .ok .modified => none
  | .ok .added => some .trace
  | .ok .removed => some .trace
  | .ok .declined => some (if full then .warn else .debug)
  | .ok .ignored => some .debug
  | .error _ => some .debug

/-- Only a modification goes unreported. -/
lemma answerLevel?_eq_none_iff {full : Bool} {answer : Except Fault Change} :
    answerLevel? full answer = none ↔ answer = .ok .modified := by
  cases answer with
  | error => simp [answerLevel?]
  | ok change => cases change <;> simp [answerLevel?]

/-- A warning reports a service declined for lack of room. -/
lemma answerLevel?_eq_warn_iff {full : Bool} {answer : Except Fault Change} :
    answerLevel? full answer = some .warn ↔ answer = .ok .declined ∧ full = true := by
  cases answer with
  | error => simp [answerLevel?]
  | ok change => cases change <;> simp [answerLevel?]

/-- A trace reports a service added or removed. -/
lemma answerLevel?_eq_trace_iff {full : Bool} {answer : Except Fault Change} :
    answerLevel? full answer = some .trace ↔ answer = .ok .added ∨ answer = .ok .removed := by
  cases answer with
  | error => simp [answerLevel?]
  | ok change => cases change <;> cases full <;> simp [answerLevel?]

/-- All else is reported for debugging. -/
lemma answerLevel?_eq_debug_iff {full : Bool} {answer : Except Fault Change} :
    answerLevel? full answer = some .debug ↔
      answer = .ok .ignored ∨ (answer = .ok .declined ∧ full = false) ∨
        ∃ fault, answer = .error fault := by
  cases answer with
  | error => simp [answerLevel?]
  | ok change => cases change <;> cases full <;> simp [answerLevel?]

namespace Outcome

/-- The records that the tracker itself makes. -/
def own (out : Outcome rep σ α) : List Record :=
  out.log.filterMap (Line.own? out.tracker.config.name)

/-- Two outcomes of trackers of different names are the same, and so are the lines of their logs. In
words, the lines come under the one name and the other. -/
structure Renamed (name name' : String) (out out' : Outcome rep σ α) : Prop where
  result_eq : out'.result = out.result
  calls_eq : out'.calls = out.calls
  state_eq : out'.state = out.state
  slots_eq : out'.tracker.slots = out.tracker.slots
  log_eq : out'.log = out.log
  records_eq : out.records = out.log.map (Line.record name)
  records_eq' : out'.records = out.log.map (Line.record name')

/-- What the observer said is no record of the tracker's own. -/
lemma filterMap_own?_observer (name : String) (said : List Record) :
    (said.map Line.observer).filterMap (Line.own? name) = [] := by
  simp [List.filterMap_map, Function.comp_def, Line.own?]

/-- What the observer said is recorded as it was said. -/
lemma map_record_observer (name : String) (said : List Record) :
    (said.map Line.observer).map (Line.record name) = said := by
  simp [Function.comp_def, Line.record]

/-- One record of the tracker behind those of the observer. -/
lemma filterMap_own?_behind (name : String) (said : List Record) (m : Message) :
    (said.map Line.observer ++ [Line.own m]).filterMap (Line.own? name) =
      [(Line.own m).record name] := by
  rw [List.filterMap_append, filterMap_own?_observer]
  rfl

/-- One record of the tracker in front of those of the observer. -/
lemma filterMap_own?_ahead (name : String) (said : List Record) (m : Message) :
    (Line.own m :: said.map .observer).filterMap (Line.own? name) = [(Line.own m).record name] := by
  rw [List.filterMap_cons, filterMap_own?_observer]
  rfl

/-- The tracker puts its name in front of its own records. -/
lemma exists_body_of_mem_own {out : Outcome rep σ α} {r : Record} (mem : r ∈ out.own) :
    ∃ body, r.text = "tracker(" ++ out.tracker.config.name ++ "): " ++ body := by
  obtain ⟨line, -, said⟩ := List.mem_filterMap.1 mem
  cases line with
  | own m =>
    obtain rfl := Option.some.inj said
    exact ⟨m.body, rfl⟩
  | observer => cases said

end Outcome

namespace Tracker

open Outcome

variable {o : Observer rep σ} {t : Tracker rep} {st : σ} {e : Event rep.subject}
  {out : Outcome rep σ (Except Fault Change)}

/-- Of an event a tracker makes the record that goes with the answer. -/
lemma Intake.levels_eq (intake : Intake o t st e out) :
    out.own.map Record.level = (answerLevel? t.reached?.isSome out.result).toList := by
  cases intake with
  | known | ignoring | notTracked => rfl
  | full _ full =>
    rw [full]
    rfl
  | failed | added =>
    rw [own, filterMap_own?_behind]
    rfl
  | declined _ room =>
    rw [own, filterMap_own?_behind, room]
    rfl
  | modified =>
    rw [own, filterMap_own?_observer]
    rfl
  | removed =>
    rw [own, filterMap_own?_ahead]
    rfl

/-- The tracker is silent exactly about modifications. -/
lemma Intake.own_eq_nil_iff (intake : Intake o t st e out) :
    out.own = [] ↔ out.result = .ok .modified := by
  rw [← List.map_eq_nil_iff (f := Record.level), intake.levels_eq, Option.toList_eq_nil_iff,
    answerLevel?_eq_none_iff]

/-- The tracker reports an event once at most. -/
lemma Intake.length_own_le (intake : Intake o t st e out) : out.own.length ≤ 1 := by
  rw [← List.length_map (f := Record.level), intake.levels_eq]
  exact Option.length_toList_le

/-- It warns exactly if it declines a service because its capacity is reached. -/
lemma Intake.levels_eq_warn_iff (intake : Intake o t st e out) :
    out.own.map Record.level = [.warn] ↔
      out.result = .ok .declined ∧ ∃ k, t.config.capacity = some k ∧ k ≤ t.size := by
  rw [intake.levels_eq, Option.toList_eq_singleton_iff, answerLevel?_eq_warn_iff,
    Option.isSome_iff_exists]
  simp only [reached?_eq_some_iff]

/-- It traces exactly additions and removals. -/
lemma Intake.levels_eq_trace_iff (intake : Intake o t st e out) :
    out.own.map Record.level = [.trace] ↔ out.result = .ok .added ∨ out.result = .ok .removed := by
  rw [intake.levels_eq, Option.toList_eq_singleton_iff, answerLevel?_eq_trace_iff]

/-- A tracker that is not full declines what the observer does not want. -/
lemma Intake.declined_iff (intake : Intake o t st e out) :
    out.result = .ok .declined ∧ t.reached?.isSome = false ↔
      out.result = .ok .declined ∧
        ∃ v, out.calls = [.adding e.reference (.ok v)] ∧ rep.isPresent v = false := by
  refine and_congr_right fun declined => ?_
  obtain ⟨capacity, full, silent, -⟩ | ⟨room, v, absent, asked⟩ := intake.declined_inv declined
  · simp [full, silent]
  · simp [room, asked, absent]

/-- It debugs what is ignored, declined because there is nothing to keep, or failed. -/
lemma Intake.levels_eq_debug_iff (intake : Intake o t st e out) :
    out.own.map Record.level = [.debug] ↔
      out.result = .ok .ignored ∨
        (out.result = .ok .declined ∧
          ∃ v, out.calls = [.adding e.reference (.ok v)] ∧ rep.isPresent v = false) ∨
        ∃ fault, out.result = .error fault := by
  rw [intake.levels_eq, Option.toList_eq_singleton_iff, answerLevel?_eq_debug_iff,
    intake.declined_iff]

/-- Where the observer hears nothing, the records are the tracker's own. -/
lemma Intake.records_of_silent (intake : Intake o t st e out) (silent : out.calls = []) :
    out.records = out.own := by
  cases intake with
  | known | full | ignoring | notTracked => rfl
  | failed | declined | added | modified | removed => cases silent

/-- The tracker speaks after the observer that it asks. -/
lemma Intake.records_of_asked (intake : Intake o t st e out) {r answer}
    (asked : out.calls = [.adding r answer]) : out.records = (o.adding r st).log ++ out.own := by
  cases intake with
  | failed | declined | added =>
    cases asked
    rw [records, own, filterMap_own?_behind, List.map_append, map_record_observer]
    rfl
  | known | full | modified | ignoring | removed | notTracked => cases asked

/-- Of a modification the observer's records are all there is. -/
lemma Intake.records_of_changed (intake : Intake o t st e out) {r v w}
    (told : out.calls = [.modified r v w]) : out.records = (o.modified r v st).log := by
  cases intake with
  | modified =>
    cases told
    exact map_record_observer _ _
  | known | full | failed | declined | added | ignoring | removed | notTracked => cases told

/-- The tracker speaks before the observer that it tells of a removal. -/
lemma Intake.records_of_removed (intake : Intake o t st e out) {r v w}
    (told : out.calls = [.removed r v w]) : out.records = out.own ++ (o.removed r v st).log := by
  cases intake with
  | removed =>
    cases told
    rw [records, own, filterMap_own?_ahead, List.map_cons, map_record_observer]
    rfl
  | known | full | failed | declined | added | modified | ignoring | notTracked => cases told

/-- The removal of a service that is not tracked is not recorded. -/
lemma records_remove_of_untracked {id : ServiceId} (untracked : t.contains id = false) :
    (t.remove o id st).records = [] := by
  rw [remove_of_untracked (not_contains_iff.1 untracked)]
  rfl

/-- The removal of a service is traced. -/
lemma levels_remove_of_tracked {id : ServiceId} {slot : Slot rep}
    (found : t.slots.get? id = some slot) :
    (t.remove o id st).own.map Record.level = [.trace] := by
  rw [remove_of_tracked found, own, filterMap_own?_ahead]
  rfl

/-- A removal is recorded by the tracker first and then by the observer. -/
lemma records_remove_of_tracked {id : ServiceId} {slot : Slot rep}
    (found : t.slots.get? id = some slot) :
    (t.remove o id st).records =
      (t.remove o id st).own ++ (o.removed slot.reference slot.value st).log := by
  rw [remove_of_tracked found, records, own, filterMap_own?_ahead, List.map_cons,
    map_record_observer]
  rfl

/-- Settings that differ in the name at most make no difference to an operation. -/
lemma indifferent_of_eq {c : Config} (eager : c.trackOnModified = t.config.trackOnModified)
    (capacity : c.capacity = t.config.capacity) (op : Operation rep.subject) :
    Indifferent c t op where
  eager _ _ _ := eager
  room _ _ _ _ := reached?_under capacity

/-- A tracker by another name goes the same way at every step of a run. -/
theorem run_renamed (t : Tracker rep) (o : Observer rep σ) (ops : List (Operation rep.subject))
    (st : σ) (name : String) :
    List.Forall₂ (Renamed t.config.name name) (t.run o ops st)
      ((t.under { t.config with name := name }).run o ops st) := by
  let c : Config := { t.config with name := name }
  have same : t.Throughout o ops st fun u _ op => Indifferent c u op := by
    intro before op later _
    refine indifferent_of_eq ?_ ?_ op
    · rw [config_after]
    · rw [config_after]
  rw [run_under same, List.forall₂_map_right_iff, List.forall₂_same]
  intro out mem
  rw [← config_of_mem_run mem]
  exact ⟨rfl, rfl, rfl, rfl, rfl, rfl, rfl⟩

/-- The log tells what became of the events, and the name is for the reader. In every state that
operations lead to from an empty tracker, a tracker puts its name in front of all records of its
own. Of an event it makes one, but none if the observer is told of a change, and that one is

* a warning exactly if the service is declined because as many are tracked as may be;
* a trace exactly if the service is added or removed;
* for debugging exactly if the event is ignored, or the service is declined as the observer wishes,
  or the observer fails.

It comes after all that an observer says who is asked, and before all that an observer says who is
told of a removal, also if the service is given up without an event. Closing makes the records of
giving all services up, and a last one that counts them if there were any. Two trackers whose
settings differ in the name alone go the same way at every step of a run, and their logs are the same
lines, each of them under its name. -/
theorem records_tell_outcomes (config : Config) (o : Observer rep σ) (st : σ)
    (ops : List (Operation rep.subject)) :
    let t := ((fresh config).after o ops st).1
    let st' := ((fresh config).after o ops st).2
    (∀ op, ∀ r ∈ (t.perform o op st').own,
      ∃ body, r.text = "tracker(" ++ config.name ++ "): " ++ body) ∧
    (∀ e : Event rep.subject,
      let out := t.apply o e st'
      (out.own.length ≤ 1 ∧ (out.own = [] ↔ out.result = .ok .modified)) ∧
      (out.own.map Record.level = [.warn] ↔
        out.result = .ok .declined ∧ ∃ k, config.capacity = some k ∧ k ≤ t.size) ∧
      (out.own.map Record.level = [.trace] ↔
        out.result = .ok .added ∨ out.result = .ok .removed) ∧
      (out.own.map Record.level = [.debug] ↔
        out.result = .ok .ignored ∨
          (out.result = .ok .declined ∧
            ∃ v, out.calls = [.adding e.reference (.ok v)] ∧ rep.isPresent v = false) ∨
          ∃ fault, out.result = .error fault) ∧
      (out.calls = [] → out.records = out.own) ∧
      (∀ r answer, out.calls = [.adding r answer] →
        out.records = (o.adding r st').log ++ out.own) ∧
      (∀ r v w, out.calls = [.modified r v w] → out.records = (o.modified r v st').log) ∧
      ∀ r v w, out.calls = [.removed r v w] →
        out.records = out.own ++ (o.removed r v st').log) ∧
    (∀ id,
      let out := t.remove o id st'
      (t.contains id = false → out.records = []) ∧
      ∀ slot, t.slots.get? id = some slot → out.own.map Record.level = [.trace] ∧
        out.records = out.own ++ (o.removed slot.reference slot.value st').log) ∧
    (t.close o st').records = (t.run o (t.ids.map .remove) st').flatMap Outcome.records ++
      (if t.isEmpty then []
      else
        [.ofTracker config.name .debug ("closed, " ++ toString t.size ++ " services released")]) ∧
    ∀ name,
      List.Forall₂ (Renamed config.name name) ((fresh config).run o ops st)
        ((fresh { config with name := name }).run o ops st) := by
  intro t st'
  have config_eq : t.config = config := config_after (fresh config) o ops st
  refine ⟨fun op r mem => ?_, fun e => ?_, fun id => ?_, ?_, run_renamed (fresh config) o ops st⟩
  · have named := exists_body_of_mem_own mem
    rwa [config_perform, config_eq] at named
  · intro out
    have intake : Intake o t st' e out := apply_intake t o e st'
    have warned := intake.levels_eq_warn_iff
    rw [config_eq] at warned
    exact ⟨⟨intake.length_own_le, intake.own_eq_nil_iff⟩, warned, intake.levels_eq_trace_iff,
      intake.levels_eq_debug_iff, intake.records_of_silent, fun r answer => intake.records_of_asked,
      fun r v w => intake.records_of_changed, fun r v w => intake.records_of_removed⟩
  · exact ⟨records_remove_of_untracked, fun slot found =>
      ⟨levels_remove_of_tracked found, records_remove_of_tracked found⟩⟩
  · rw [← config_eq]
    exact records_close t o st'

/-- A contract for something that rings. -/
def bell : Contract := ⟨"org.example.Bell", "dyn Bell"⟩

/-- A registry of two services, the first of which offers a bell and the second nothing. -/
def wired : Registry :=
  ((Registry.empty.register (Offering.empty.publish 0 bell 7) 0).2.register .empty 0).2

/-- The tracker of one bell speaks after the standard observer, not at all, before it, and alone. -/
theorem records_tell_outcomes_bell :
    let o : Observer (.sameService bell) Registry := .standard _ Registry.context "ringer"
    let config : Config := ⟨"door", true, some 1⟩
    let t := ((fresh config).after o [.apply (.registered ⟨⟨1⟩, 0⟩)] wired).1
    let asked := (fresh config).apply o (.registered ⟨⟨2⟩, 0⟩) wired
    let changed := t.apply o (.modified ⟨⟨1⟩, 9⟩) wired
    let removed := t.apply o (.unregistering ⟨⟨1⟩, 9⟩) wired
    let refused := t.apply o (.registered ⟨⟨2⟩, 0⟩) wired
    asked.own.map Record.level = [.debug] ∧
    asked.records = (o.adding ⟨⟨2⟩, 0⟩ wired).log ++ asked.own ∧
    (o.adding ⟨⟨2⟩, 0⟩ wired).log.map Record.level = [.debug] ∧
    changed.own = [] ∧
    removed.own.map Record.level = [.trace] ∧
    removed.records = removed.own ++ (o.removed ⟨⟨1⟩, 0⟩ ⟨some 7⟩ wired).log ∧
    refused.own.map Record.level = [.warn] ∧ refused.records = refused.own ∧
    List.Forall₂ (Renamed "door" "gate") ((fresh config).run o [.close] wired)
      ((fresh { config with name := "gate" }).run o [.close] wired) := by
  intro o config t asked changed removed refused
  obtain ⟨-, first, -, -, renamed⟩ := records_tell_outcomes config o wired [.close]
  obtain ⟨-, later, -, -, -⟩ :=
    records_tell_outcomes config o wired [.apply (.registered ⟨⟨1⟩, 0⟩)]
  obtain ⟨-, -, -, debug, -, behind, -, -⟩ := first (.registered ⟨⟨2⟩, 0⟩)
  obtain ⟨⟨-, silent⟩, -, -, -, -, -, -, -⟩ := later (.modified ⟨⟨1⟩, 9⟩)
  obtain ⟨-, -, trace, -, -, -, -, ahead⟩ := later (.unregistering ⟨⟨1⟩, 9⟩)
  obtain ⟨-, warn, -, -, alone, -, -, -⟩ := later (.registered ⟨⟨2⟩, 0⟩)
  exact ⟨debug.2 (.inr (.inl ⟨rfl, _, rfl, rfl⟩)), behind _ _ rfl, rfl, silent.2 rfl,
    trace.2 (.inr rfl), ahead _ _ _ rfl, warn.2 ⟨rfl, 1, rfl, by decide⟩, alone rfl, renamed "gate"⟩

end Tracker

end ServiceWatch
