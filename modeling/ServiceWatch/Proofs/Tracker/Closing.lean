import ServiceWatch.Proofs.Observer.Questions
import ServiceWatch.Proofs.Tracker.Invariant
import ServiceWatch.Proofs.Tracker.Settings

/-!
# Closing

A tracker is closed by giving up, one after the other, what it tracked at the beginning. This loop
is a run of removals (`removeAll_eq_run`), whatever services it goes over. If they are tracked and
none comes twice (`Tracks`), each removal finds its service still there: so the observer is told of
the slots as they were at the beginning (`Tracks.map_question_calls`), and news of the end of the
services would have done the same (`Tracks.run_unregistering`).
-/

namespace ServiceWatch

variable {rep : Representation} {σ : Type}

/-- What the observer is told of a slot that is given up. -/
def Slot.farewell (slot : Slot rep) : Question rep := .removed slot.reference slot.value

/-- Looking every key of a table up gives its values in their order. -/
lemma Table.filterMap_keys {κ ν α : Type} [Ord κ] [Std.LawfulEqOrd κ] (t : Table κ ν) (f : ν → α) :
    (t.keys.filterMap fun k => (t.get? k).map f) = t.values.map f := by
  rw [keys, values, List.filterMap_map, List.map_map, ← List.filterMap_eq_map]
  refine List.filterMap_congr fun e mem => ?_
  have found : t.get? e.1 = some e.2 := get?_eq_some_iff.2 mem
  exact congrArg (Option.map f) found

namespace Tracker

variable {o : Observer rep σ} {t : Tracker rep} {slot : Slot rep} {id : ServiceId}
  {ids : List ServiceId} {st : σ}

/-- Services are given up as by removals that are done one after the other. -/
theorem removeAll_eq_run (t : Tracker rep) (o : Observer rep σ) (ids : List ServiceId) (st : σ) :
    let out := t.removeAll o ids st
    let removals := t.run o (ids.map .remove) st
    (out.tracker, out.state) = t.after o (ids.map .remove) st ∧
      out.calls = removals.flatMap Outcome.calls ∧ out.log = removals.flatMap Outcome.log := by
  induction ids generalizing t st with
  | nil => exact ⟨rfl, rfl, rfl⟩
  | cons id ids ih =>
    obtain ⟨after, calls, log⟩ := ih (t.remove o id st).tracker (t.remove o id st).state
    exact ⟨after, congrArg (_ ++ ·) calls, congrArg (_ ++ ·) log⟩

/-- All services of a list are removed if they are tracked and none is listed twice. -/
lemma Tracks.result_removeAll (tracks : t.Tracks ids) (o : Observer rep σ) (st : σ) :
    (t.removeAll o ids st).result = ids.length := by
  induction ids generalizing t st with
  | nil => rfl
  | cons id ids ih =>
    obtain ⟨slot, found⟩ := tracks.head
    rw [removeAll, remove_tracker, ih tracks.tail, remove_of_tracked found]
    rfl

/-- Removing all that is tracked removes as many services as there are. -/
lemma result_removeAll_ids (t : Tracker rep) (o : Observer rep σ) (st : σ) :
    (t.removeAll o t.ids st).result = t.size := by
  rw [(tracks_ids t).result_removeAll]
  exact List.length_map ..

/-- The observer is told of each removal with what was kept for the service. -/
lemma Tracks.map_question_calls (tracks : t.Tracks ids) (o : Observer rep σ) (st : σ) :
    (t.removeAll o ids st).calls.map Callback.question =
      ids.filterMap fun id => (t.slots.get? id).map Slot.farewell := by
  induction ids generalizing t st with
  | nil => rfl
  | cons id ids ih =>
    obtain ⟨slot, found⟩ := tracks.head
    obtain ⟨absent, -⟩ := List.nodup_cons.1 tracks.nodup
    -- What was kept for the others is kept for them once the first is gone.
    have kept : ∀ id' ∈ ids, (t.drop id).slots.get? id' = t.slots.get? id' := fun id' mem =>
      (get?_drop t id id').trans (if_neg (ne_of_mem_of_not_mem mem absent))
    rw [removeAll, remove_tracker, List.map_append, ih tracks.tail,
      List.filterMap_congr fun id' mem => congrArg (Option.map Slot.farewell) (kept id' mem),
      remove_of_tracked found, List.filterMap_cons, found]
    rfl

/-- News of the end of a service that is tracked has it removed. -/
lemma perform_unregistering (found : t.slots.get? id = some slot) (o : Observer rep σ)
    (ranking : Int32) (st : σ) :
    t.perform o (.apply (.unregistering ⟨id, ranking⟩)) st =
      (t.perform o (.remove id) st).map fun _ => .applied (.ok .removed) := by
  rw [perform, perform, apply, remove_of_tracked found]
  rfl

/-- Services that unregister one after the other are removed one by one. -/
lemma Tracks.run_unregistering (tracks : t.Tracks ids) (o : Observer rep σ)
    (ranking : ServiceId → Int32) (st : σ) :
    let news := ids.map fun id => .apply (.unregistering ⟨id, ranking id⟩)
    t.run o news st =
        (t.run o (ids.map .remove) st).map (Outcome.map fun _ => .applied (.ok .removed)) ∧
      t.after o news st = t.after o (ids.map .remove) st := by
  induction ids generalizing t st with
  | nil => exact ⟨rfl, rfl⟩
  | cons id ids ih =>
    obtain ⟨slot, found⟩ := tracks.head
    have next : (t.perform o (.remove id) st).tracker.Tracks ids := by
      show (t.remove o id st).tracker.Tracks ids
      rw [remove_tracker]
      exact tracks.tail
    obtain ⟨outs, after⟩ := ih next (t.perform o (.remove id) st).state
    simp only [List.map_cons, run, Tracker.after, perform_unregistering found]
    exact ⟨congrArg (_ :: ·) outs, after⟩

/-- Closing is giving up all that is tracked, and saying so if that was anything. -/
lemma close_eq (t : Tracker rep) (o : Observer rep σ) (st : σ) :
    let out := t.removeAll o t.ids st
    t.close o st =
      { out with log := out.log ++ if t.isEmpty then [] else [.own (.closed t.size)] } := by
  intro out
  have count : out.result = t.size := result_removeAll_ids t o st
  have empty : t.isEmpty = decide (out.result = 0) := by
    rw [count, isEmpty, size, Table.isEmpty, Table.size]
    cases t.slots.entries <;> rfl
  rw [close_of_removeAll, empty, ← count]
  simp only [decide_eq_true_eq]
  rfl

/-- The records of lines that go on one after the other, while the settings stay. -/
lemma map_record_flatMap {outs : List (Outcome rep σ Result)} {config : Config}
    (same : ∀ out ∈ outs, out.tracker.config = config) :
    (outs.flatMap Outcome.log).map (Line.record config.name) = outs.flatMap Outcome.records := by
  rw [List.map_flatMap]
  refine List.flatMap_congr fun out mem => ?_
  rw [← same out mem]
  rfl

/-- The observer is told of all that was tracked, with what was kept for it. -/
lemma map_question_close (t : Tracker rep) (o : Observer rep σ) (st : σ) :
    (t.close o st).calls.map Callback.question = t.slots.values.map Slot.farewell := by
  rw [← Table.filterMap_keys, calls_close]
  exact (tracks_ids t).map_question_calls o st

/-- Closing is told service by service, in ascending order. -/
lemma map_id_close (keyed : t.Keyed) (o : Observer rep σ) (st : σ) :
    (t.close o st).calls.map (fun call => call.reference.id) = t.ids := by
  have numbers : (t.close o st).calls.map (fun call => call.reference.id) =
      ((t.close o st).calls.map Callback.question).map Question.id := by
    rw [List.map_map]
    exact List.map_congr_left fun call _ => (Callback.id_question call).symm
  rw [numbers, map_question_close, ← map_id_references keyed, references, List.map_map,
    List.map_map]
  rfl

/-- The log of closing is that of the removals, and a last line if anything was tracked. -/
lemma records_close (t : Tracker rep) (o : Observer rep σ) (st : σ) :
    (t.close o st).records = (t.run o (t.ids.map .remove) st).flatMap Outcome.records ++
      if t.isEmpty then []
      else [.ofTracker t.config.name .debug
        ("closed, " ++ toString t.size ++ " services released")] := by
  obtain ⟨-, -, log⟩ := removeAll_eq_run t o t.ids st
  have same : ∀ out ∈ t.run o (t.ids.map .remove) st, out.tracker.config = t.config :=
    fun out mem => config_of_mem_run mem
  rw [Outcome.records, tracker_close, close_eq, log, List.map_append]
  refine congrArg₂ _ (map_record_flatMap same) ?_
  cases t.isEmpty <;> rfl

/-- All ways to give services up agree, and a tracker that was closed is as good as new. In every
state that operations lead to from an empty tracker, closing

* counts the services that were tracked, and leaves none;
* tells the observer of each of them, once and by ascending number, with what was kept for it;
* makes the callbacks, leaves the state and writes the log of removing these services one after the
  other, but for a last line that is there if any service was, and removing them does what news of
  their end does, whatever rankings it comes with;

and what is done afterwards goes as from an empty tracker under the same settings. To close it a
second time at once does nothing. -/
theorem close_agrees (config : Config) (o : Observer rep σ) (st : σ)
    (ops : List (Operation rep.subject)) :
    let t := ((fresh config).after o ops st).1
    let st' := ((fresh config).after o ops st).2
    let out := t.close o st'
    let removals := t.run o (t.ids.map .remove) st'
    (out.result = t.size ∧ out.tracker = fresh config) ∧
    (out.calls.map Callback.question = t.slots.values.map Slot.farewell ∧
      out.calls.map (fun call => call.reference.id) = t.ids ∧
      (∀ id, id ∈ t.ids ↔ t.contains id = true) ∧
      t.ids.Pairwise fun a b => a.number < b.number) ∧
    (out.calls = removals.flatMap Outcome.calls ∧
      (out.tracker, out.state) = t.after o (t.ids.map .remove) st' ∧
      out.records = removals.flatMap Outcome.records ++
        if t.isEmpty then []
        else
          [.ofTracker config.name .debug ("closed, " ++ toString t.size ++ " services released")]) ∧
    (∀ ranking : ServiceId → Int32,
      let news := t.ids.map fun id => .apply (.unregistering ⟨id, ranking id⟩)
      t.run o news st' = removals.map (Outcome.map fun _ => .applied (.ok .removed)) ∧
        t.after o news st' = t.after o (t.ids.map .remove) st') ∧
    (∀ later, t.run o (.close :: later) st' =
      out.map .closed :: (fresh config).run o later out.state) ∧
    out.tracker.close o out.state = ⟨0, fresh config, out.state, [], []⟩ := by
  intro t st' out removals
  have config_eq : t.config = config := config_after (fresh config) o ops st
  have keyed : t.Keyed := after_keyed config ops st
  obtain ⟨after, calls, -⟩ := removeAll_eq_run t o t.ids st'
  have closed : out.tracker = fresh config := by
    rw [← config_eq]
    exact tracker_close t o st'
  refine ⟨⟨(result_close t o st').trans (result_removeAll_ids t o st'), closed⟩,
    ⟨map_question_close t o st', map_id_close keyed o st', fun id => mem_ids_iff, ids_ascending t⟩,
    ⟨?_, ?_, ?_⟩, fun ranking => (tracks_ids t).run_unregistering o ranking st', fun later => ?_, ?_⟩
  · exact (calls_close t o st').trans calls
  · rw [← after]
    show ((t.close o st').tracker, (t.close o st').state) = _
    rw [close_of_removeAll]
  · rw [← config_eq]
    exact records_close t o st'
  · show out.map .closed :: out.tracker.run o later out.state = _
    rw [closed]
  · rw [closed]
    rfl

end Tracker

end ServiceWatch
