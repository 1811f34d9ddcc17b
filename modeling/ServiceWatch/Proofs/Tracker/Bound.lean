import ServiceWatch.Proofs.Tracker.Derived
import ServiceWatch.Proofs.Tracker.Invariant
import ServiceWatch.Proofs.Tracker.Settings
import ServiceWatch.World.Script

/-!
# Bounds

A bound on the services of a tracker shows where the observer would be asked about a service that
there is no room for, and nowhere else. Up to there the tracker goes the same way as without a bound
(`Fits.indifferent`), and there it declines the service without asking (`apply_of_full`).
`run_of_bound` has both for whole runs, with the first operation at which the bound shows.
-/

namespace ServiceWatch.Tracker

variable {rep : Representation} {σ : Type} {o : Observer rep σ} {t : Tracker rep} {c : Config}
  {st : σ} {e : Event rep.subject} {r : Reference rep.subject} {op : Operation rep.subject} {k : Nat}

/-- Whether the observer is asked in an operation what to keep for a service. -/
def asks (t : Tracker rep) (o : Observer rep σ) (st : σ) (op : Operation rep.subject) : Bool :=
  (t.perform o op st).calls.any Callback.isAdding

/-- If the observer is asked in an operation, there is room for one more service. -/
def Fits (k : Nat) (o : Observer rep σ) (t : Tracker rep) (st : σ) (op : Operation rep.subject) :
    Prop :=
  t.asks o st op = true → t.size < k

instance : Decidable (Fits k o t st op) :=
  inferInstanceAs (Decidable (t.asks o st op = true → t.size < k))

/-- Asking about a service is one callback. -/
lemma calls_ask (t : Tracker rep) (o : Observer rep σ) (r : Reference rep.subject) (st : σ) :
    (t.ask o r st).calls = [.adding r (o.adding r st).answer] := by
  rw [ask]
  cases answer : (o.adding r st).answer with
  | error fault => rfl
  | ok v =>
    simp only
    split <;> rfl

/-- Where there is room, the observer is asked about a service that is offered. -/
lemma asks_of_offers (offers : t.Offers e r) (room : t.reached? = none) :
    t.asks o st (.apply e) = true := by
  have calls : (t.perform o (.apply e) st).calls = [.adding r (o.adding r st).answer] := by
    show (t.apply o e st).calls = _
    rw [apply_of_offers offers room, calls_ask]
  rw [asks, calls]
  rfl

/-- The observer is asked only about a service that is offered. -/
lemma Intake.offers_of_asked {out : Outcome rep σ (Except Fault Change)}
    (intake : Intake o t st e out) (asked : out.calls.any Callback.isAdding = true) :
    t.Offers e e.reference := by
  cases intake with
  | failed offers | declined offers | added offers =>
    rw [offers.reference_eq]
    exact offers
  | known | full | modified | ignoring | removed | notTracked => cases asked

/-- The observer is asked about services that are offered by an event, and no others. -/
lemma offers_of_asks (keyed : t.Keyed) (asked : t.asks o st op = true) :
    ∃ e, op = .apply e ∧ t.Offers e e.reference := by
  cases op with
  | apply e => exact ⟨e, rfl, (apply_intake t o e st).offers_of_asked asked⟩
  | remove id =>
    obtain ⟨call, mem, adding⟩ := List.any_eq_true.1 asked
    rw [(remove_isAdding t keyed id st call mem).1] at adding
    cases adding
  | close =>
    obtain ⟨call, mem, adding⟩ := List.any_eq_true.1 asked
    have mem : call ∈ (t.close o st).calls := mem
    rw [calls_close] at mem
    rw [(removeAll_isAdding t keyed t.ids st call mem).1] at adding
    cases adding

/-- Where there is no room, a service that is offered is declined. -/
lemma apply_of_full (offers : t.Offers e r) (full : t.reached? = some k) :
    t.apply o e st = ⟨.ok .declined, t, st, [], [.own (.full k r.id)]⟩ := by
  cases offers with
  | registered untracked =>
    rw [apply, add, not_contains_iff.2 untracked, full]
    rfl
  | modified untracked eager =>
    rw [apply, modify, untracked]
    simp only [eager, if_true]
    rw [add, not_contains_iff.2 untracked, full]
    rfl

/-- A service that is offered is so under other settings with the same eagerness. -/
lemma Offers.under (offers : t.Offers e r) (eager : c.trackOnModified = t.config.trackOnModified) :
    (t.under c).Offers e r := by
  cases offers with
  | registered untracked => exact .registered untracked
  | modified untracked taken => exact .modified untracked (eager.trans taken)

/-- A capacity above the size is not reached. -/
lemma reached?_under_of_lt (bound : c.capacity = some k) (room : t.size < k) :
    (t.under c).reached? = none := by
  refine reached?_eq_none_iff.2 fun capacity same => ?_
  cases bound.symm.trans same
  exact room

/-- A capacity up to the size is reached. -/
lemma reached?_under_of_le (bound : c.capacity = some k) (full : k ≤ t.size) :
    (t.under c).reached? = some k :=
  reached?_eq_some_iff.2 ⟨bound, full⟩

/-- A bound makes no difference to an operation that fits. -/
lemma Fits.indifferent (fits : Fits k o t st op) (unbounded : t.config.capacity = none)
    (bound : c.capacity = some k) (eager : c.trackOnModified = t.config.trackOnModified) :
    Indifferent c t op where
  eager _ _ _ := eager
  room e r done offers := by
    have free : t.reached? = none := reached?_of_unbounded unbounded
    subst done
    rw [free, reached?_under_of_lt bound (fits (asks_of_offers offers free))]

/-- News of a service that is tracked has nothing to do with the capacity. -/
lemma indifferent_of_contains (known : t.contains e.id = true)
    (eager : c.trackOnModified = t.config.trackOnModified) : Indifferent c t (.apply e) where
  eager _ _ _ := eager
  room e' r done offers := by
    cases done
    rw [offers.not_contains] at known
    cases known

/-- A bound does not show until it is hit. If the observer is only asked where there is room for one
more service, the run is the same at every step as without the bound. Otherwise it is so up to the
first operation at which the observer is asked while as many services are tracked as the bound
allows: there the bounded tracker declines the service with a warning, asks nobody and stays as it
is. News of services that are tracked never depends on a bound. -/
theorem run_of_bound (config : Config) (o : Observer rep σ) (st : σ)
    (ops : List (Operation rep.subject)) (k : Nat) :
    let free : Config := { config with capacity := none }
    let bounded : Config := { config with capacity := some k }
    let t : Tracker rep := fresh free
    let u : Tracker rep := fresh bounded
    (t.Throughout o ops st (Fits k o) →
      Outcome.AlikeUnder bounded (u.run o ops st) (t.run o ops st)) ∧
    (¬ t.Throughout o ops st (Fits k o) → ∃ before e later,
      let t' := (t.after o before st).1
      let st' := (t.after o before st).2
      let refusal : Outcome rep σ Result :=
        ⟨.applied (.ok .declined), t'.under bounded, st', [], [.own (.full k e.id)]⟩
      ops = before ++ .apply e :: later ∧
      t.Throughout o before st (Fits k o) ∧ t'.asks o st' (.apply e) = true ∧ t'.size = k ∧
      Outcome.AlikeUnder bounded (u.run o before st) (t.run o before st) ∧
      u.after o before st = (t'.under bounded, st') ∧
      u.run o ops st = u.run o before st ++ refusal :: (t'.under bounded).run o later st' ∧
      refusal.records.map Record.level = [.warn]) ∧
    ∀ (t : Tracker rep) (st : σ) (e : Event rep.subject) (capacity : Option Nat),
      let c : Config := { t.config with capacity := capacity }
      t.contains e.id = true →
        (t.under c).perform o (.apply e) st = (t.perform o (.apply e) st).under c := by
  intro free bounded t u
  have indifferent {ops : List (Operation rep.subject)} (fits : t.Throughout o ops st (Fits k o)) :
      t.Throughout o ops st fun t _ op => Indifferent bounded t op := by
    intro before op later split
    refine (fits before op later split).indifferent ?_ rfl ?_
    · rw [config_after]
      rfl
    · rw [config_after]
      rfl
  refine ⟨fun fits => alikeUnder_of_eq rfl (run_under (indifferent fits)), fun hit => ?_, ?_⟩
  · obtain fits | ⟨before, op, later, rfl, earlier, shows⟩ :=
      throughout_or_first (Fits k o) t o ops st
    · exact absurd fits hit
    obtain ⟨asked, crowded⟩ := Classical.not_imp.1 shows
    have full := Nat.le_of_not_lt crowded
    have keyed : (t.after o before st).1.Keyed := after_keyed free before st
    obtain ⟨e, rfl, offers⟩ := offers_of_asks keyed asked
    -- Up to here the bounded tracker has kept the same services, and no more than it may.
    have reached : u.after o before st =
        ((t.after o before st).1.under bounded, (t.after o before st).2) :=
      after_under (indifferent earlier)
    have bound : (u.after o before st).1.size ≤ k :=
      ((invariant_fresh bounded).after o before st).bounded k rfl
    rw [reached] at bound
    have eager : bounded.trackOnModified = (t.after o before st).1.config.trackOnModified := by
      rw [config_after]
      rfl
    have refused : ((t.after o before st).1.under bounded).apply o e (t.after o before st).2 =
        ⟨.ok .declined, (t.after o before st).1.under bounded, (t.after o before st).2, [],
          [.own (.full k e.id)]⟩ :=
      apply_of_full (offers.under eager) (reached?_under_of_le rfl full)
    refine ⟨before, e, later, rfl, earlier, asked, Nat.le_antisymm bound full,
      alikeUnder_of_eq rfl (run_under (indifferent earlier)), reached, ?_, rfl⟩
    rw [run_append, reached, run, perform, refused]
    rfl
  · intro t st e capacity c known
    exact perform_under (indifferent_of_contains (c := c) known rfl) st

/-- A script that grants leases and counts the changes of a service on them. -/
def metered : Script := ⟨{ sample := .number 5, onModified := .bump }, []⟩

/-- Of three services two are tracked at a time. -/
def fitting : List (Operation Pair.lease.rep.subject) :=
  [.apply (.registered ⟨⟨1⟩, 0⟩), .apply (.modified ⟨⟨2⟩, 1⟩), .apply (.modified ⟨⟨2⟩, 2⟩),
    .remove ⟨1⟩, .apply (.registered ⟨⟨3⟩, 0⟩)]

/-- A third service is to be tracked along with two others, and one of those changes afterwards. -/
def overfull : List (Operation Pair.lease.rep.subject) :=
  [.apply (.registered ⟨⟨1⟩, 0⟩), .apply (.modified ⟨⟨2⟩, 1⟩), .apply (.registered ⟨⟨3⟩, 0⟩),
    .apply (.modified ⟨⟨1⟩, 9⟩)]

/-- A bound of two does not show in the one run, and shows in the other at the third service. -/
theorem run_of_bound_leases :
    let free : Config := ⟨"small", true, none⟩
    let bounded : Config := ⟨"small", true, some 2⟩
    let o := Pair.lease.scripted metered
    let w := World.ofThings []
    let t : Tracker Pair.lease.rep := fresh free
    let u : Tracker Pair.lease.rep := fresh bounded
    t.Throughout o fitting w (Fits 2 o) ∧
    Outcome.AlikeUnder bounded (u.run o fitting w) (t.run o fitting w) ∧
    ¬ t.Throughout o overfull w (Fits 2 o) ∧
    (∃ before e later, overfull = before ++ .apply e :: later ∧
      Outcome.AlikeUnder bounded (u.run o before w) (t.run o before w) ∧
      (t.after o before w).1.size = 2) ∧
    (u.after o overfull w).1.ids = [⟨1⟩, ⟨2⟩] := by
  intro free bounded o w t u
  obtain ⟨hidden, -, -⟩ := run_of_bound free o w fitting 2
  obtain ⟨-, shown, -⟩ := run_of_bound free o w overfull 2
  have fits : t.Throughout o fitting w (Fits 2 o) := by
    exact throughout_cons.2 ⟨by decide, throughout_cons.2 ⟨by decide, throughout_cons.2 ⟨by decide,
      throughout_cons.2 ⟨by decide, throughout_cons.2 ⟨by decide, throughout_nil⟩⟩⟩⟩⟩
  have hit : ¬ t.Throughout o overfull w (Fits 2 o) := by
    intro fits
    have third := fits (overfull.take 2) (.apply (.registered ⟨⟨3⟩, 0⟩)) _ rfl
    exact absurd third (by decide)
  obtain ⟨before, e, later, split, -, -, size, alike, -⟩ := shown hit
  exact ⟨fits, hidden fits, hit, ⟨before, e, later, split, alike, size⟩, by decide⟩

end ServiceWatch.Tracker
