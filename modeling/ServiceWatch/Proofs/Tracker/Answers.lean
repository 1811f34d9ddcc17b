import Mathlib.Data.Finset.Basic
import Mathlib.Data.Finset.Dedup
import ServiceWatch.Proofs.Tracker.Membership
import ServiceWatch.Proofs.Tracker.Trace

/-!
# Answers

What the answer to an event says of the tracker before and after it. Of `Intake`, which lists the
ways an event can go, the answer shows only the end, yet nothing that matters is lost: a fault is the
observer's own (`Intake.error_iff`), an event that came to nothing leaves no trace
(`Intake.tracker_of_vain`), and each of the other answers comes with one change of one slot. So
whoever listens to the answers alone knows which services are tracked: `tally` is how to keep count
(`tracked_answers`).
-/

namespace ServiceWatch

/-- Whether an answer says that the event came to nothing. -/
def isVain : Except Fault Change → Bool
  | .error _ => true
  | .ok .declined => true
  | .ok .ignored => true
  | _ => false

/-- Whether an event was answered by its service being removed. -/
def isRemoved : Except Fault Change → Bool
  | .ok .removed => true
  | _ => false

/-- Whether a result is that a service was added. -/
def Result.adds : Result → Bool
  | applied answer => isAdded answer
  | _ => false

/-- Whether a result is that a service was removed upon news of it. -/
def Result.removes : Result → Bool
  | applied answer => isRemoved answer
  | _ => false

/-- The services that are tracked once one of them was heard of, going by the result alone. -/
def tally (tracked : Finset ServiceId) : ServiceId × Result → Finset ServiceId
  | (id, .applied (.ok .added)) => insert id tracked
  | (id, .applied (.ok .removed)) => tracked.erase id
  | _ => tracked

namespace Tracker

variable {rep : Representation} {σ : Type} {o : Observer rep σ} {t : Tracker rep} {st : σ}
  {e : Event rep.subject} {out : Outcome rep σ (Except Fault Change)}

/-- The services that are tracked. -/
def tracked (t : Tracker rep) : Finset ServiceId := t.ids.toFinset

/-- The results of events that come in one after the other, each with the service it is about. -/
def answers (t : Tracker rep) (o : Observer rep σ) (es : List (Event rep.subject)) (st : σ) :
    List (ServiceId × Result) :=
  (es.map Event.id).zip ((t.run o (es.map .apply) st).map Outcome.result)

/-- The services of a tracker are those that it contains. -/
@[simp]
lemma mem_tracked {id : ServiceId} : id ∈ t.tracked ↔ t.contains id = true := by
  rw [tracked, List.mem_toFinset, mem_ids_iff]

/-- A fault is what the observer answered when it was asked about the event's service. -/
lemma Intake.error_iff (intake : Intake o t st e out) {fault : Fault} :
    out.result = .error fault ↔ out.calls = [.adding e.reference (.error fault)] ∧
      (o.adding e.reference st).answer = .error fault := by
  cases intake with
  | known | full | modified | ignoring | removed | notTracked => simp
  | failed offers _ answer =>
    rw [offers.reference_eq, answer]
    simp
  | declined | added => simp

/-- An event that came to nothing leaves the tracker as it was. -/
lemma Intake.tracker_of_vain (intake : Intake o t st e out) (vain : isVain out.result = true) :
    out.tracker = t := by
  cases intake with
  | known | full | failed | declined | ignoring | notTracked => rfl
  | added | modified | removed => cases vain

/-- The observer does not hear of an event that is ignored. -/
lemma Intake.silent_of_ignored (intake : Intake o t st e out) (ignored : out.result = .ok .ignored) :
    out.calls = [] ∧ out.state = st := by
  cases intake with
  | known | ignoring | notTracked => exact ⟨rfl, rfl⟩
  | full | failed | declined | added | modified | removed => cases ignored

/-- A service is declined by a tracker that is full, without a word to the observer, or by the
observer. -/
lemma Intake.declined_inv (intake : Intake o t st e out) (declined : out.result = .ok .declined) :
    (∃ capacity, t.reached? = some capacity ∧ out.calls = [] ∧ out.state = st) ∨
      t.reached? = none ∧ ∃ v, rep.isPresent v = false ∧
        out.calls = [.adding e.reference (.ok v)] := by
  cases intake with
  | @full _ _ capacity _ full => exact .inl ⟨capacity, full, rfl, rfl⟩
  | @declined _ _ v offers room _ absent =>
    rw [offers.reference_eq]
    exact .inr ⟨room, v, absent, rfl⟩
  | known | failed | added | modified | ignoring | removed | notTracked => cases declined

/-- A service was added: it was not tracked, and what the observer gave is kept for it. -/
lemma Intake.added_inv (intake : Intake o t st e out) (added : out.result = .ok .added) :
    t.contains e.id = false ∧ ∃ v, rep.isPresent v = true ∧
      out.calls = [.adding e.reference (.ok v)] ∧
      out.tracker.slots.get? e.id = some ⟨e.reference, v⟩ := by
  cases intake with
  | @added _ _ v offers _ _ present =>
    obtain rfl := offers.reference_eq
    refine ⟨offers.not_contains, v, present, rfl, ?_⟩
    exact (get?_store t _ _).trans (if_pos rfl)
  | known | full | failed | declined | modified | ignoring | removed | notTracked => cases added

/-- A service was modified: it was tracked, and what the observer left of its value is kept. -/
lemma Intake.modified_inv (intake : Intake o t st e out) (modified : out.result = .ok .modified) :
    ∃ slot v, t.slots.get? e.id = some slot ∧
      out.calls = [.modified e.reference slot.value v] ∧
      out.tracker.slots.get? e.id = some ⟨e.reference, v⟩ := by
  cases intake with
  | @modified r slot v found _ =>
    exact ⟨slot, v, found, rfl, (get?_store t _ _).trans (if_pos rfl)⟩
  | known | full | failed | declined | added | ignoring | removed | notTracked => cases modified

/-- A service was removed: it was tracked, and the observer was told with what was kept. -/
lemma Intake.removed_inv (intake : Intake o t st e out) (removed : out.result = .ok .removed) :
    ∃ slot v, t.slots.get? e.id = some slot ∧
      out.calls = [.removed slot.reference slot.value v] := by
  cases intake with
  | @removed r slot v found _ => exact ⟨slot, v, found, rfl⟩
  | known | full | failed | declined | added | modified | ignoring | notTracked => cases removed

/-- An event removes a service exactly if it is tracked before and not after. -/
lemma Intake.isRemoved_eq (intake : Intake o t st e out) :
    isRemoved out.result = (t.contains e.id && !out.tracker.contains e.id) := by
  rw [Bool.eq_iff_iff, Bool.and_eq_true, Bool.not_eq_true', ← intake.removed_iff]
  cases out.result with
  | error => simp [isRemoved]
  | ok change => cases change <;> simp [isRemoved]

/-- What the answer to an event makes of the tally is what the event makes of the tracker. -/
lemma Intake.tracked_eq (intake : Intake o t st e out) :
    out.tracker.tracked = tally t.tracked (e.id, .applied out.result) := by
  ext id
  by_cases own : e.id = id
  · -- The answer says of its own service whether it is tracked now,
    subst own
    cases intake with
    | known | full | failed | declined | ignoring | notTracked => simp [tally]
    | added offers => simp [tally, contains_store, offers.id_eq]
    | modified found => simp [tally, contains_store, Event.id, Event.reference, contains_iff.2 ⟨_, found⟩]
    | removed => simp [tally, contains_drop, Event.id, Event.reference]
  · -- and neither the tracker nor the tally has anything new of another one.
    have spared : id ∈ out.tracker.tracked ↔ id ∈ t.tracked := by
      rw [mem_tracked, mem_tracked, intake.touches.contains_of_ne own]
    rw [spared]
    cases intake with
    | known | full | failed | declined | ignoring | notTracked | modified => rfl
    | added => simp [tally, Ne.symm own]
    | removed => simp [tally, Ne.symm own]

/-- The tracker grows by one service that is added, and shrinks by one that is removed. -/
lemma Intake.size_balance (intake : Intake o t st e out) :
    out.tracker.size + (isRemoved out.result).toNat = t.size + (isAdded out.result).toNat := by
  have size := intake.touches.size_eq
  rw [intake.isRemoved_eq, intake.isAdded_eq]
  cases before : t.contains e.id <;> cases after : out.tracker.contains e.id <;>
    simp [before, after] at size ⊢ <;> omega

/-- The answers to a first event and to the others. -/
lemma answers_cons (t : Tracker rep) (o : Observer rep σ) (e : Event rep.subject)
    (es : List (Event rep.subject)) (st : σ) :
    t.answers o (e :: es) st = (e.id, .applied (t.apply o e st).result) ::
      (t.apply o e st).tracker.answers o es (t.apply o e st).state :=
  rfl

/-- The services that are tracked after some events are those that the answers tell of. -/
lemma tracked_answers (t : Tracker rep) (o : Observer rep σ) (es : List (Event rep.subject))
    (st : σ) : (t.after o (es.map .apply) st).1.tracked = (t.answers o es st).foldl tally t.tracked := by
  induction es generalizing t st with
  | nil => rfl
  | cons e es ih =>
    rw [answers_cons, List.foldl_cons, ← (apply_intake t o e st).tracked_eq]
    exact ih _ _

/-- How many services are tracked after some events is how many were added less those removed. -/
lemma size_answers (t : Tracker rep) (o : Observer rep σ) (es : List (Event rep.subject)) (st : σ) :
    (t.after o (es.map .apply) st).1.size + (t.answers o es st).countP (fun told => told.2.removes) =
      t.size + (t.answers o es st).countP (fun told => told.2.adds) := by
  induction es generalizing t st with
  | nil => rfl
  | cons e es ih =>
    have first := (apply_intake t o e st).size_balance
    have others := ih (t.apply o e st).tracker (t.apply o e st).state
    have later : (t.after o ((e :: es).map .apply) st).1 =
      ((t.apply o e st).tracker.after o (es.map .apply) (t.apply o e st).state).1 := rfl
    have adds : (Result.applied (t.apply o e st).result).adds = isAdded (t.apply o e st).result := rfl
    have removes : (Result.applied (t.apply o e st).result).removes =
      isRemoved (t.apply o e st).result := rfl
    rw [later, answers_cons, List.countP_cons, List.countP_cons, adds, removes]
    cases added : isAdded (t.apply o e st).result <;>
      cases removed : isRemoved (t.apply o e st).result <;>
        simp [added, removed] at first ⊢ <;> omega

/-- Results say exactly what happened, and what came to nothing leaves no trace. In every state that
operations lead to from an empty tracker, an event

* fails with a fault exactly if the observer was asked about its service, once, and answered so;
* that failed, or was declined or ignored, leaves the tracker as it was, so that what comes later
  goes as if it had not been there;
* is ignored without a callback, and declined without one if the tracker is full, or else because
  the observer answered with an absent value;
* adds a service that was not tracked, under the event's reference and with a present value;
* is answered as a change of a service that was tracked and stays so, or as the removal of one that
  was tracked and no longer is, and the observer is told of just that;

and does nothing to other services. So the services that are tracked after some events are those
that the answers tell of, and their number is how many were added less how many were removed. -/
theorem results_tell_changes (config : Config) (o : Observer rep σ) (st : σ)
    (ops : List (Operation rep.subject)) :
    let t := ((fresh config).after o ops st).1
    let st' := ((fresh config).after o ops st).2
    (∀ e : Event rep.subject,
      let out := t.apply o e st'
      (∀ fault, out.result = .error fault ↔
        out.calls = [.adding e.reference (.error fault)] ∧
          (o.adding e.reference st').answer = .error fault) ∧
      (isVain out.result = true → out.tracker = t ∧
        ∀ later, t.run o (.apply e :: later) st' = out.map .applied :: t.run o later out.state) ∧
      (out.result = .ok .ignored → out.calls = [] ∧ out.state = st') ∧
      (out.result = .ok .declined →
        (∃ capacity, config.capacity = some capacity ∧ capacity ≤ t.size ∧
          out.calls = [] ∧ out.state = st') ∨
        (∀ capacity, config.capacity = some capacity → t.size < capacity) ∧
          ∃ v, rep.isPresent v = false ∧ out.calls = [.adding e.reference (.ok v)]) ∧
      (out.result = .ok .added → t.contains e.id = false ∧ ∃ v, rep.isPresent v = true ∧
        out.calls = [.adding e.reference (.ok v)] ∧
        out.tracker.slots.get? e.id = some ⟨e.reference, v⟩) ∧
      (out.result = .ok .modified → out.tracker.tracked = t.tracked ∧
        ∃ slot v, t.slots.get? e.id = some slot ∧
          out.calls = [.modified e.reference slot.value v] ∧
          out.tracker.slots.get? e.id = some ⟨e.reference, v⟩) ∧
      (out.result = .ok .removed → out.tracker.tracked = t.tracked.erase e.id ∧
        ∃ slot v, t.slots.get? e.id = some slot ∧
          out.calls = [.removed slot.reference slot.value v]) ∧
      out.tracker.config = t.config ∧
      ∀ id, e.id ≠ id → out.tracker.slots.get? id = t.slots.get? id) ∧
    ∀ es : List (Event rep.subject),
      let t' := (t.after o (es.map .apply) st').1
      let told := t.answers o es st'
      t'.tracked = told.foldl tally t.tracked ∧
      t'.size + told.countP (fun p => p.2.removes) = t.size + told.countP (fun p => p.2.adds) := by
  intro t st'
  have config_eq : t.config = config := config_after (fresh config) o ops st
  refine ⟨fun e => ?_, fun es => ⟨tracked_answers t o es st', size_answers t o es st'⟩⟩
  intro out
  have intake : Intake o t st' e out := apply_intake t o e st'
  refine ⟨fun fault => intake.error_iff, fun vain => ?_, intake.silent_of_ignored, fun declined => ?_,
    intake.added_inv, fun modified => ?_, fun removed => ?_, intake.touches.config_eq,
    intake.touches.others⟩
  · have same := intake.tracker_of_vain vain
    refine ⟨same, fun later => ?_⟩
    -- A run goes on from the tracker alone, and that one is the same.
    show out.map .applied :: out.tracker.run o later out.state = _
    rw [same]
  · rw [← config_eq]
    obtain ⟨capacity, full, silent⟩ | ⟨room, absent⟩ := intake.declined_inv declined
    · obtain ⟨bound, le⟩ := reached?_eq_some_iff.1 full
      exact .inl ⟨capacity, bound, le, silent⟩
    · exact .inr ⟨reached?_eq_none_iff.1 room, absent⟩
  · refine ⟨?_, intake.modified_inv modified⟩
    rw [intake.tracked_eq, modified]
    rfl
  · refine ⟨?_, intake.removed_inv removed⟩
    rw [intake.tracked_eq, removed]
    rfl

end Tracker

end ServiceWatch
