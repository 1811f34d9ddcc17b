import ServiceWatch.Proofs.Tracker.Inversion

/-!
# Traces

A tracker and its observer change by callbacks and by nothing else. A `Move` is one callback with
the change that goes with it, and a `Trace` is a list of them, each from where the one before led.
Whatever is done to a tracker, its callbacks are a trace from its state before to its state after
(`perform_trace`, `run_trace`), so what holds of every move holds along every run.
-/

namespace ServiceWatch.Tracker

variable {rep : Representation} {σ : Type}

/-- One callback and the change that goes with it. -/
inductive Move (o : Observer rep σ) :
    Tracker rep → σ → Callback rep → Tracker rep → σ → Prop
  | failed {t st r fault} : t.slots.get? r.id = none →
      (o.adding r st).answer = .error fault →
      Move o t st (.adding r (.error fault)) t (o.adding r st).state
  | declined {t st r v} : t.slots.get? r.id = none →
      (o.adding r st).answer = .ok v → rep.isPresent v = false →
      Move o t st (.adding r (.ok v)) t (o.adding r st).state
  | added {t st r v} : t.slots.get? r.id = none →
      (o.adding r st).answer = .ok v → rep.isPresent v = true →
      Move o t st (.adding r (.ok v)) (t.store ⟨r, v⟩) (o.adding r st).state
  | modified {t st r slot v} : t.slots.get? r.id = some slot →
      v = rep.settle slot.value (o.modified r slot.value st).answer →
      Move o t st (.modified r slot.value v) (t.store ⟨r, v⟩) (o.modified r slot.value st).state
  | removed {t st slot v} : t.slots.get? slot.reference.id = some slot →
      v = rep.settle slot.value (o.removed slot.reference slot.value st).answer →
      Move o t st (.removed slot.reference slot.value v) (t.drop slot.reference.id)
        (o.removed slot.reference slot.value st).state

/-- A list of callbacks with the changes that go with them. -/
inductive Trace (o : Observer rep σ) :
    Tracker rep → σ → List (Callback rep) → Tracker rep → σ → Prop
  | nil {t st} : Trace o t st [] t st
  | cons {t st c t' st' cs t'' st''} : Move o t st c t' st' → Trace o t' st' cs t'' st'' →
      Trace o t st (c :: cs) t'' st''

variable {o : Observer rep σ} {t t' t'' : Tracker rep} {st st' st'' : σ} {c : Callback rep}
  {cs cs' : List (Callback rep)}

/-- One move is a trace. -/
lemma Move.trace (move : Move o t st c t' st') : Trace o t st [c] t' st' := .cons move .nil

/-- A trace goes on where another one led. -/
lemma Trace.append (first : Trace o t st cs t' st') (second : Trace o t' st' cs' t'' st'') :
    Trace o t st (cs ++ cs') t'' st'' := by
  induction first with
  | nil => exact second
  | cons move _ ih => exact .cons move (ih second)

/-- A move keeps every slot under its own service. -/
lemma Move.keyed (move : Move o t st c t' st') (keyed : t.Keyed) : t'.Keyed := by
  cases move with
  | failed => exact keyed
  | declined => exact keyed
  | added => exact keyed.store _
  | modified => exact keyed.store _
  | removed => exact keyed.drop _

/-- A move leaves the settings as they are. -/
lemma Move.config_eq (move : Move o t st c t' st') : t'.config = t.config := by
  cases move <;> rfl

/-- A trace keeps every slot under its own service. -/
lemma Trace.keyed (trace : Trace o t st cs t' st') (keyed : t.Keyed) : t'.Keyed := by
  induction trace with
  | nil => exact keyed
  | cons move _ ih => exact ih (move.keyed keyed)

/-- A trace leaves the settings as they are. -/
lemma Trace.config_eq (trace : Trace o t st cs t' st') : t'.config = t.config := by
  induction trace with
  | nil => rfl
  | cons move _ ih => rw [ih, move.config_eq]

/-- An event that is taken in is a trace of its callbacks. -/
lemma Intake.trace {e out} (intake : Intake o t st e out) (keyed : t.Keyed) :
    Trace o t st out.calls out.tracker out.state := by
  cases intake with
  | known _ => exact .nil
  | full _ _ => exact .nil
  | failed offers _ answer => exact (Move.failed offers.untracked answer).trace
  | declined offers _ answer absent => exact (Move.declined offers.untracked answer absent).trace
  | added offers _ answer present => exact (Move.added offers.untracked answer present).trace
  | modified found settled => exact (Move.modified found settled).trace
  | ignoring _ _ => exact .nil
  | @removed r slot v found settled =>
    have e : slot.reference.id = r.id := keyed _ _ found
    rw [← e] at found ⊢
    exact (Move.removed found settled).trace
  | notTracked _ => exact .nil

/-- A removal is a trace of its callbacks. -/
lemma remove_trace (t : Tracker rep) (keyed : t.Keyed) (id : ServiceId) (st : σ) :
    Trace o t st (t.remove o id st).calls (t.remove o id st).tracker (t.remove o id st).state := by
  cases h : t.slots.get? id with
  | none =>
    rw [remove_of_untracked h]
    exact .nil
  | some slot =>
    obtain rfl := keyed _ _ h
    rw [remove_of_tracked h]
    exact (Move.removed h rfl).trace

/-- Removals one by one are a trace of their callbacks. -/
lemma removeAll_trace (t : Tracker rep) (keyed : t.Keyed) (ids : List ServiceId) (st : σ) :
    Trace o t st (t.removeAll o ids st).calls (t.removeAll o ids st).tracker
      (t.removeAll o ids st).state := by
  induction ids generalizing t st with
  | nil => exact .nil
  | cons id ids ih =>
    have first := remove_trace (o := o) t keyed id st
    exact first.append (ih _ (first.keyed keyed) _)

/-- Closing is a trace of its callbacks. -/
lemma close_trace (t : Tracker rep) (keyed : t.Keyed) (st : σ) :
    Trace o t st (t.close o st).calls (t.close o st).tracker (t.close o st).state := by
  have trace := removeAll_trace (o := o) t keyed t.ids st
  rw [close]
  split <;> exact trace

/-- The callbacks of an operation account for all that it changes. -/
theorem perform_trace (t : Tracker rep) (keyed : t.Keyed) (op : Operation rep.subject) (st : σ) :
    Trace o t st (t.perform o op st).calls (t.perform o op st).tracker
      (t.perform o op st).state := by
  cases op with
  | apply e => exact (apply_intake t o e st).trace keyed
  | remove id => exact remove_trace t keyed id st
  | close => exact close_trace t keyed st

/-- The callbacks of a run are those of its first operation and of the others. -/
lemma calls_cons (t : Tracker rep) (o : Observer rep σ) (op : Operation rep.subject)
    (ops : List (Operation rep.subject)) (st : σ) :
    t.calls o (op :: ops) st = (t.perform o op st).calls ++
      (t.perform o op st).tracker.calls o ops (t.perform o op st).state :=
  List.flatMap_cons

/-- The callbacks of operations after others are those of both. -/
lemma calls_append (t : Tracker rep) (o : Observer rep σ) (ops ops' : List (Operation rep.subject))
    (st : σ) :
    t.calls o (ops ++ ops') st =
      t.calls o ops st ++ (t.after o ops st).1.calls o ops' (t.after o ops st).2 := by
  induction ops generalizing t st with
  | nil => rfl
  | cons op ops ih =>
    rw [List.cons_append, calls_cons, ih, calls_cons, List.append_assoc]
    rfl

/-- The callbacks of a run account for all that it changes. -/
theorem run_trace (t : Tracker rep) (keyed : t.Keyed) (ops : List (Operation rep.subject))
    (st : σ) : Trace o t st (t.calls o ops st) (t.after o ops st).1 (t.after o ops st).2 := by
  induction ops generalizing t st with
  | nil => exact .nil
  | cons op ops ih =>
    have first := perform_trace (o := o) t keyed op st
    exact first.append (ih _ (first.keyed keyed) _)

/-- Every slot is kept under its own service, whatever is done to a tracker. -/
lemma after_keyed (config : Config) (ops : List (Operation rep.subject)) (st : σ) :
    ((fresh config).after o ops st).1.Keyed :=
  (run_trace _ (keyed_fresh config) ops st).keyed (keyed_fresh config)

end ServiceWatch.Tracker
