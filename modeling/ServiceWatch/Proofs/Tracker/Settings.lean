import ServiceWatch.Proofs.Tracker.Membership

/-!
# Settings

A tracker next to the same one under other settings. Settings are looked up in two places only:
whether changes are taken for registrations, for a change of a service that is not tracked, and the
capacity, for a service that is offered. Where neither makes a difference to an operation
(`Indifferent`), it comes to the same under both settings (`perform_under`), and if that is so
throughout a run, the runs are the same at every step (`run_under`).
-/

namespace ServiceWatch

variable {rep : Representation} {σ α : Type}

namespace Tracker

/-- The tracker under other settings, with the same services. -/
def under (t : Tracker rep) (c : Config) : Tracker rep := ⟨c, t.slots⟩

end Tracker

/-- The outcome with its tracker under other settings. -/
def Outcome.under (out : Outcome rep σ α) (c : Config) : Outcome rep σ α :=
  { out with tracker := out.tracker.under c }

/-- Settings with the same name leave the records of an outcome as they are. -/
lemma Outcome.records_under (out : Outcome rep σ α) {c : Config}
    (name : c.name = out.tracker.config.name) : (out.under c).records = out.records := by
  rw [records, records, ← name]
  rfl

/-- Two runs are the same at every step, with logs in the same words, but that the tracker of the
first is under settings of its own. -/
structure Outcome.AlikeUnder (c : Config) (outs outs' : List (Outcome rep σ Result)) : Prop where
  outcomes_eq : outs = outs'.map fun out => out.under c
  records_eq : outs.map Outcome.records = outs'.map Outcome.records

namespace Tracker

/-- What holds of every operation in a run, of the tracker and the observer's state at that time. -/
def Throughout (t : Tracker rep) (o : Observer rep σ) (ops : List (Operation rep.subject)) (st : σ)
    (P : Tracker rep → σ → Operation rep.subject → Prop) : Prop :=
  ∀ before op later, ops = before ++ op :: later →
    P (t.after o before st).1 (t.after o before st).2 op

/-- It makes no difference to an operation whether the tracker is under the given settings. -/
structure Indifferent (c : Config) (t : Tracker rep) (op : Operation rep.subject) : Prop where
  eager : ∀ r, op = .apply (.modified r) → t.contains r.id = false →
    c.trackOnModified = t.config.trackOnModified
  room : ∀ e r, op = .apply e → t.Offers e r → (t.under c).reached? = t.reached?

variable {o : Observer rep σ} {t : Tracker rep} {c : Config} {st : σ}
  {P : Tracker rep → σ → Operation rep.subject → Prop}

/-- Anything holds throughout a run without operations. -/
lemma throughout_nil : t.Throughout o [] st P := by
  intro before op later split
  cases before <;> cases split

/-- What holds throughout a run holds of its first operation and throughout the others. -/
lemma throughout_cons {op : Operation rep.subject} {ops : List (Operation rep.subject)} :
    t.Throughout o (op :: ops) st P ↔ P t st op ∧
      (t.perform o op st).tracker.Throughout o ops (t.perform o op st).state P := by
  constructor
  · intro holds
    refine ⟨holds [] op ops rfl, fun before op' later split => ?_⟩
    exact holds (op :: before) op' later (congrArg (op :: ·) split)
  · rintro ⟨first, others⟩ before op' later split
    cases before with
    | nil =>
      cases split
      exact first
    | cons _ before =>
      cases split
      exact others before op' later rfl

/-- Either something holds throughout a run, or there is a first operation of which it does not. -/
lemma throughout_or_first (P : Tracker rep → σ → Operation rep.subject → Prop) (t : Tracker rep)
    (o : Observer rep σ) (ops : List (Operation rep.subject)) (st : σ) :
    t.Throughout o ops st P ∨ ∃ before op later, ops = before ++ op :: later ∧
      t.Throughout o before st P ∧ ¬ P (t.after o before st).1 (t.after o before st).2 op := by
  induction ops generalizing t st with
  | nil => exact .inl throughout_nil
  | cons op ops ih =>
    by_cases first : P t st op
    · obtain others | ⟨before, op', later, rfl, earlier, fails⟩ :=
        ih (t.perform o op st).tracker (t.perform o op st).state
      · exact .inl (throughout_cons.2 ⟨first, others⟩)
      · exact .inr ⟨op :: before, op', later, rfl, throughout_cons.2 ⟨first, earlier⟩, fails⟩
    · exact .inr ⟨[], op, ops, rfl, throughout_nil, first⟩

/-- A run of operations after others begins where these lead. -/
lemma run_append (t : Tracker rep) (o : Observer rep σ) (ops ops' : List (Operation rep.subject))
    (st : σ) : t.run o (ops ++ ops') st =
      t.run o ops st ++ (t.after o ops st).1.run o ops' (t.after o ops st).2 := by
  induction ops generalizing t st with
  | nil => rfl
  | cons op ops ih => exact congrArg (t.perform o op st :: ·) (ih _ _)

/-- Settings with the same name leave the words of a run's logs as they are. -/
lemma alikeUnder_of_eq {ops : List (Operation rep.subject)} {outs : List (Outcome rep σ Result)}
    (name : c.name = t.config.name) (outcomes : outs = (t.run o ops st).map fun out => out.under c) :
    Outcome.AlikeUnder c outs (t.run o ops st) := by
  refine ⟨outcomes, ?_⟩
  rw [outcomes, List.map_map]
  refine List.map_congr_left fun out mem => out.records_under ?_
  rw [config_of_mem_run mem, name]

/-- Settings with the same capacity let the same be reached. -/
lemma reached?_under (capacity : c.capacity = t.config.capacity) :
    (t.under c).reached? = t.reached? := by
  rw [reached?, reached?, ← capacity]
  rfl

/-- Asking about a service comes to the same under any settings. -/
lemma ask_under (t : Tracker rep) (c : Config) (o : Observer rep σ) (r : Reference rep.subject)
    (st : σ) : (t.under c).ask o r st = (t.ask o r st).under c := by
  rw [ask, ask]
  cases (o.adding r st).answer with
  | error fault => rfl
  | ok v =>
    cases present : rep.isPresent v with
    | false =>
      simp only [present]
      rfl
    | true =>
      simp only [present, if_true]
      rfl

/-- A registration comes to the same where the same capacity is reached. -/
lemma add_under (r : Reference rep.subject) (st : σ)
    (room : t.contains r.id = false → (t.under c).reached? = t.reached?) :
    (t.under c).add o r st = (t.add o r st).under c := by
  have same : (t.under c).contains r.id = t.contains r.id := rfl
  rw [add, add, same]
  cases known : t.contains r.id with
  | true => rfl
  | false =>
    rw [room known]
    cases t.reached? with
    | some capacity => rfl
    | none => exact ask_under t c o r st

/-- A change comes to the same where eagerness and capacity make no difference to it. -/
lemma modify_under (r : Reference rep.subject) (st : σ)
    (eager : t.contains r.id = false → c.trackOnModified = t.config.trackOnModified)
    (room : t.contains r.id = false → t.config.trackOnModified = true →
      (t.under c).reached? = t.reached?) :
    (t.under c).modify o r st = (t.modify o r st).under c := by
  have same : (t.under c).slots.get? r.id = t.slots.get? r.id := rfl
  rw [modify, modify, same]
  cases found : t.slots.get? r.id with
  | some slot => rfl
  | none =>
    have untracked := not_contains_iff.2 found
    have settings : (t.under c).config.trackOnModified = t.config.trackOnModified := eager untracked
    simp only [settings]
    cases taken : t.config.trackOnModified with
    | false => rfl
    | true => exact add_under r st fun _ => room untracked taken

/-- Settings have no part in giving services up. -/
lemma remove_under (t : Tracker rep) (c : Config) (o : Observer rep σ) (id : ServiceId) (st : σ) :
    (t.under c).remove o id st = (t.remove o id st).under c := by
  have same : (t.under c).slots.get? id = t.slots.get? id := rfl
  rw [remove, remove, same]
  cases t.slots.get? id <;> rfl

/-- Removals come to the same under any settings. -/
lemma removeAll_under (t : Tracker rep) (c : Config) (o : Observer rep σ) (ids : List ServiceId)
    (st : σ) : (t.under c).removeAll o ids st = (t.removeAll o ids st).under c := by
  induction ids generalizing t st with
  | nil => rfl
  | cons id ids ih =>
    have first := remove_under t c o id st
    have others := ih (t.remove o id st).tracker (t.remove o id st).state
    rw [removeAll, removeAll, first]
    simp only [Outcome.under, others]

/-- Closing comes to the same under any settings. -/
lemma close_under (t : Tracker rep) (c : Config) (o : Observer rep σ) (st : σ) :
    (t.under c).close o st = (t.close o st).under c := by
  have all := removeAll_under t c o t.ids st
  have same : (t.under c).ids = t.ids := rfl
  have count : ((t.removeAll o t.ids st).under c).result = (t.removeAll o t.ids st).result := rfl
  rw [close, close, same, all, count]
  split <;> rfl

/-- The end of a service comes to the same under any settings. -/
lemma apply_unregistering_under (t : Tracker rep) (c : Config) (o : Observer rep σ)
    (r : Reference rep.subject) (st : σ) :
    (t.under c).apply o (.unregistering r) st = (t.apply o (.unregistering r) st).under c := by
  have found : ((t.remove o r.id st).under c).result = (t.remove o r.id st).result := rfl
  rw [apply, apply, remove_under, found]
  split <;> rfl

/-- Where settings make no difference to an operation, it comes to the same under them. -/
theorem perform_under {op : Operation rep.subject} (same : Indifferent c t op) (st : σ) :
    (t.under c).perform o op st = (t.perform o op st).under c := by
  cases op with
  | apply e =>
    have applied : (t.under c).apply o e st = (t.apply o e st).under c := by
      cases e with
      | registered r =>
        refine add_under r st fun untracked => ?_
        exact same.room _ r rfl (.registered (not_contains_iff.1 untracked))
      | modified r =>
        refine modify_under r st (same.eager r rfl) fun untracked eager => ?_
        exact same.room _ r rfl (.modified (not_contains_iff.1 untracked) eager)
      | unregistering r => exact apply_unregistering_under t c o r st
    exact congrArg (Outcome.map Result.applied) applied
  | remove id => exact congrArg (Outcome.map Result.removed) (remove_under t c o id st)
  | close => exact congrArg (Outcome.map Result.closed) (close_under t c o st)

/-- Where settings make no difference throughout a run, it is the same under them at every step. -/
theorem run_under {ops : List (Operation rep.subject)}
    (same : t.Throughout o ops st fun u _ op => Indifferent c u op) :
    (t.under c).run o ops st = (t.run o ops st).map fun out => out.under c := by
  induction ops generalizing t st with
  | nil => rfl
  | cons op ops ih =>
    obtain ⟨first, others⟩ := throughout_cons.1 same
    rw [run, run, perform_under first]
    exact congrArg ((t.perform o op st).under c :: ·) (ih others)

/-- Where settings make no difference throughout, a run leads to the same. -/
lemma after_under {ops : List (Operation rep.subject)}
    (same : t.Throughout o ops st fun u _ op => Indifferent c u op) :
    (t.under c).after o ops st = ((t.after o ops st).1.under c, (t.after o ops st).2) := by
  induction ops generalizing t st with
  | nil => rfl
  | cons op ops ih =>
    obtain ⟨first, others⟩ := throughout_cons.1 same
    rw [after, after, perform_under first]
    exact ih others

end Tracker

end ServiceWatch
