import ServiceWatch.Proofs.Observer.Questions
import ServiceWatch.Proofs.Tracker.Membership

/-!
# Agreement

How little an event depends on. Of its tracker it sees the slot of its own service, whether there is
room for another one, and whether changes are taken for registrations (`AlikeFor`); of the observer
it sees the answers to questions about its service (`AgreeOn`). Where two trackers under two
observers have this in common, the event has the same result, makes the same callbacks and leaves the
same slot (`apply_agrees`).

For one tracker this extends to all operations and to runs: observers that answer alike in related
states, and whose states stay related, cannot be told apart (`perform_matches`, `after_matches`).
-/

namespace ServiceWatch

variable {rep : Representation} {σ τ : Type}

/-- Two observers, each in a state, give the same answers to all questions about a service. -/
def Observer.AgreeOn (id : ServiceId) (o : Observer rep σ) (st : σ) (p : Observer rep τ)
    (st' : τ) : Prop :=
  ∀ q, q.id = id → o.answer q st = p.answer q st'

/-- Two outcomes are the same as far as one service is concerned. -/
structure Outcome.AgreeOn {α : Type} (id : ServiceId) (out : Outcome rep σ α)
    (out' : Outcome rep τ α) : Prop where
  result_eq : out.result = out'.result
  calls_eq : out.calls = out'.calls
  slot_eq : out.tracker.slots.get? id = out'.tracker.slots.get? id

/-- Two outcomes are the same but for the observers' states and the logs. -/
structure Outcome.Same {α : Type} (out : Outcome rep σ α) (out' : Outcome rep τ α) : Prop where
  result_eq : out.result = out'.result
  calls_eq : out.calls = out'.calls
  tracker_eq : out.tracker = out'.tracker

/-- Two observers answer alike in related states, and their states stay related. -/
structure Observer.Matches (R : σ → τ → Prop) (o : Observer rep σ) (p : Observer rep τ) :
    Prop where
  answer_eq : ∀ {st st'}, R st st' → ∀ q, o.answer q st = p.answer q st'
  hear : ∀ {st st'}, R st st' → ∀ q, R (o.hear st q) (p.hear st' q)

/-- Observers that match go on matching whatever they both hear. -/
lemma Observer.Matches.hearAll {R : σ → τ → Prop} {o : Observer rep σ} {p : Observer rep τ}
    (same : o.Matches R p) {st : σ} {st' : τ} (related : R st st') (qs : List (Question rep)) :
    R (o.hearAll qs st) (p.hearAll qs st') := by
  induction qs generalizing st st' with
  | nil => exact related
  | cons q qs ih => exact ih (same.hear related q)

namespace Tracker

/-- Two trackers are the same to news of a service. -/
structure AlikeFor (id : ServiceId) (t u : Tracker rep) : Prop where
  eager : t.config.trackOnModified = u.config.trackOnModified
  room : t.reached?.isNone = u.reached?.isNone
  slot : t.slots.get? id = u.slots.get? id

/-- A tracker is like itself to news of a service. -/
lemma alikeFor_self (id : ServiceId) (t : Tracker rep) : AlikeFor id t t := ⟨rfl, rfl, rfl⟩

variable {o : Observer rep σ} {p : Observer rep τ} {st : σ} {st' : τ} {t u : Tracker rep}
  {r : Reference rep.subject}

/-- Asking about a service comes to the same where its slot is the same. -/
lemma ask_agrees (slot : t.slots.get? r.id = u.slots.get? r.id)
    (agree : o.AgreeOn r.id st p st') : (t.ask o r st).AgreeOn r.id (u.ask p r st') := by
  have answer : (o.adding r st).answer = (p.adding r st').answer := agree (.adding r) rfl
  rw [ask, ask, answer]
  cases (p.adding r st').answer with
  | error fault => exact ⟨rfl, rfl, slot⟩
  | ok v =>
    cases present : rep.isPresent v with
    | false =>
      simp only [present]
      exact ⟨rfl, rfl, slot⟩
    | true =>
      simp only [present, if_true]
      refine ⟨rfl, rfl, ?_⟩
      rw [get?_store, get?_store, if_pos rfl, if_pos rfl]

/-- A registration comes to the same for trackers that are alike to its service. -/
lemma add_agrees (alike : AlikeFor r.id t u) (agree : o.AgreeOn r.id st p st') :
    (t.add o r st).AgreeOn r.id (u.add p r st') := by
  have known : t.contains r.id = u.contains r.id := congrArg Option.isSome alike.slot
  have room := alike.room
  rw [add, add, known]
  split
  · exact ⟨rfl, rfl, alike.slot⟩
  · cases full : t.reached? with
    | none =>
      rw [full, Option.isNone_none, eq_comm, Option.isNone_iff_eq_none] at room
      rw [room]
      exact ask_agrees alike.slot agree
    | some capacity =>
      cases full' : u.reached? with
      | none =>
        rw [full, full'] at room
        cases room
      | some capacity' => exact ⟨rfl, rfl, alike.slot⟩

/-- A change comes to the same for trackers that are alike to its service. -/
lemma modify_agrees (alike : AlikeFor r.id t u) (agree : o.AgreeOn r.id st p st') :
    (t.modify o r st).AgreeOn r.id (u.modify p r st') := by
  rw [modify, modify, alike.slot]
  cases found : u.slots.get? r.id with
  | none =>
    simp only [alike.eager]
    split
    · exact add_agrees alike agree
    · exact ⟨rfl, rfl, alike.slot⟩
  | some slot =>
    have settled := Except.ok.inj (agree (.modified r slot.value) rfl)
    simp only [settled]
    refine ⟨rfl, rfl, ?_⟩
    rw [get?_store, get?_store, if_pos rfl, if_pos rfl]

/-- A removal comes to the same where the slot of the service is the same. -/
lemma remove_agrees (keyed : t.Keyed) (id : ServiceId) (slot : t.slots.get? id = u.slots.get? id)
    (agree : o.AgreeOn id st p st') : (t.remove o id st).AgreeOn id (u.remove p id st') := by
  cases found : t.slots.get? id with
  | none =>
    have found' : u.slots.get? id = none := by rw [← slot, found]
    rw [remove_of_untracked found, remove_of_untracked found']
    exact ⟨rfl, rfl, slot⟩
  | some kept =>
    have found' : u.slots.get? id = some kept := by rw [← slot, found]
    have settled := Except.ok.inj (agree (.removed kept.reference kept.value) (keyed _ _ found))
    rw [remove_of_tracked found, remove_of_tracked found', settled]
    refine ⟨rfl, rfl, ?_⟩
    rw [get?_drop, get?_drop, if_pos rfl, if_pos rfl]

/-- An event goes the same way in trackers that are the same to it, under observers that agree. -/
theorem apply_agrees (keyed : t.Keyed) {e : Event rep.subject} (alike : AlikeFor e.id t u)
    (agree : o.AgreeOn e.id st p st') : (t.apply o e st).AgreeOn e.id (u.apply p e st') := by
  cases e with
  | registered r => exact add_agrees alike agree
  | modified r => exact modify_agrees alike agree
  | unregistering r =>
    have removed : (t.remove o r.id st).AgreeOn r.id (u.remove p r.id st') :=
      remove_agrees keyed _ alike.slot agree
    rw [apply, apply, removed.result_eq]
    split
    · exact ⟨rfl, removed.calls_eq, removed.slot_eq⟩
    · exact ⟨rfl, removed.calls_eq, removed.slot_eq⟩

section Matching

variable {R : σ → τ → Prop}

/-- An event comes to the same with observers that match. -/
lemma apply_matches (same : o.Matches R p) (related : R st st') (keyed : t.Keyed)
    (e : Event rep.subject) : (t.apply o e st).Same (t.apply p e st') := by
  have agrees := apply_agrees keyed (alikeFor_self e.id t) fun q _ => same.answer_eq related q
  have touches := (apply_intake t o e st).touches
  have touches' := (apply_intake t p e st').touches
  refine ⟨agrees.result_eq, agrees.calls_eq, ?_⟩
  refine ext_slots (touches.config_eq.trans touches'.config_eq.symm) fun id => ?_
  by_cases h : e.id = id
  · subst h
    exact agrees.slot_eq
  · rw [touches.others id h, touches'.others id h]

/-- A removal comes to the same with observers that match. -/
lemma remove_matches (same : o.Matches R p) (related : R st st') (keyed : t.Keyed)
    (id : ServiceId) : (t.remove o id st).Same (t.remove p id st') := by
  have agrees := remove_agrees (o := o) keyed (u := t) id rfl
    fun q _ => same.answer_eq related q
  exact ⟨agrees.result_eq, agrees.calls_eq, by rw [remove_tracker, remove_tracker]⟩

/-- The same callbacks lead observers that match to related states. -/
lemma related_of_traces (same : o.Matches R p) (related : R st st') {st₁ : σ} {st₁' : τ}
    {t₁ u₁ : Tracker rep} {cs : List (Callback rep)} (trace : Trace o t st cs t₁ st₁)
    (trace' : Trace p u st' cs u₁ st₁') : R st₁ st₁' := by
  rw [trace.state_eq, trace'.state_eq]
  exact same.hearAll related _

/-- A removal leads observers that match to related states. -/
lemma remove_related (same : o.Matches R p) (related : R st st') (keyed : t.Keyed)
    (id : ServiceId) : R (t.remove o id st).state (t.remove p id st').state := by
  have trace := remove_trace (o := o) t keyed id st
  have trace' := remove_trace (o := p) t keyed id st'
  rw [← (remove_matches same related keyed id).calls_eq] at trace'
  exact related_of_traces same related trace trace'

/-- Removing services one by one comes to the same with observers that match. -/
lemma removeAll_matches (same : o.Matches R p) (related : R st st') (keyed : t.Keyed)
    (ids : List ServiceId) : (t.removeAll o ids st).Same (t.removeAll p ids st') := by
  induction ids generalizing t st st' with
  | nil => exact ⟨rfl, rfl, rfl⟩
  | cons id ids ih =>
    have first := remove_matches same related keyed id
    have kept := (remove_trace (o := o) t keyed id st).keyed keyed
    have others := ih (remove_related same related keyed id) kept
    rw [removeAll, removeAll, ← first.tracker_eq, ← first.result_eq, ← first.calls_eq]
    exact ⟨congrArg (· + _) others.result_eq, congrArg (_ ++ ·) others.calls_eq, others.tracker_eq⟩

/-- Whatever is done to a tracker, outcomes under matching observers are the same, and related states
lead to related ones. -/
theorem perform_matches (same : o.Matches R p) (related : R st st') (keyed : t.Keyed)
    (op : Operation rep.subject) :
    (t.perform o op st).Same (t.perform p op st') ∧
      R (t.perform o op st).state (t.perform p op st').state := by
  have outcome : (t.perform o op st).Same (t.perform p op st') := by
    cases op with
    | apply e =>
      have applied := apply_matches same related keyed e
      exact ⟨congrArg _ applied.result_eq, applied.calls_eq, applied.tracker_eq⟩
    | remove id =>
      have removed := remove_matches same related keyed id
      exact ⟨congrArg _ removed.result_eq, removed.calls_eq, removed.tracker_eq⟩
    | close =>
      have closed := removeAll_matches same related keyed t.ids
      refine ⟨congrArg Result.closed ?_, ?_, ?_⟩
      · rw [result_close, result_close, closed.result_eq]
      · show (t.close o st).calls = (t.close p st').calls
        rw [calls_close, calls_close, closed.calls_eq]
      · show (t.close o st).tracker = (t.close p st').tracker
        rw [tracker_close, tracker_close]
  have trace := perform_trace (o := o) t keyed op st
  have trace' := perform_trace (o := p) t keyed op st'
  rw [← outcome.calls_eq] at trace'
  exact ⟨outcome, related_of_traces same related trace trace'⟩

end Matching

end Tracker

end ServiceWatch
