import ServiceWatch.Proofs.Tracker.Settings
import ServiceWatch.World.Script

/-!
# Eagerness

A tracker that takes services up when they change does so as if they had been registered. What it
takes in is the events with each change of a service that it does not track taken for a registration
(`asRegistrations`), and a tracker that ignores such changes goes the same way on those
(`run_asRegistrations`). Which changes these are depends on the run so far; it is the step
(`perform_asRegistration`) that keeps the two trackers together.
-/

namespace ServiceWatch.Tracker

variable {rep : Representation} {σ : Type} {o : Observer rep σ} {t : Tracker rep} {c : Config}
  {st : σ}

/-- The operation with a change of a service that is not tracked taken for its registration. -/
def asRegistration (t : Tracker rep) : Operation rep.subject → Operation rep.subject
  | .apply (.modified r) => if t.contains r.id then .apply (.modified r) else .apply (.registered r)
  | op => op

/-- The operations of a run, each as it is when the service of a change that is not tracked at that
time is taken to be registered. -/
def asRegistrations (t : Tracker rep) (o : Observer rep σ) :
    List (Operation rep.subject) → σ → List (Operation rep.subject)
  | [], _ => []
  | op :: ops, st =>
    let out := t.perform o op st
    t.asRegistration op :: out.tracker.asRegistrations o ops out.state

/-- The operation is no change of a service that is not tracked. -/
def Expected (t : Tracker rep) (op : Operation rep.subject) : Prop :=
  ∀ r, op = .apply (.modified r) → t.contains r.id = true

/-- Eagerness makes no difference to an operation unless it changes an untracked service. -/
lemma Expected.indifferent {op : Operation rep.subject} (expected : t.Expected op)
    (capacity : c.capacity = t.config.capacity) : Indifferent c t op where
  eager r change untracked := by
    rw [expected r change] at untracked
    cases untracked
  room _ _ _ _ := reached?_under capacity

/-- Where changes are taken for registrations, it is all one whether they come in as such. -/
theorem perform_asRegistration (eager : t.config.trackOnModified = true)
    (capacity : c.capacity = t.config.capacity) (op : Operation rep.subject) (st : σ) :
    (t.under c).perform o (t.asRegistration op) st = (t.perform o op st).under c := by
  by_cases expected : t.Expected op
  · have same : t.asRegistration op = op := by
      cases op with
      | apply e =>
        cases e with
        | modified r => exact if_pos (expected r rfl)
        | registered => rfl
        | unregistering => rfl
      | remove => rfl
      | close => rfl
    rw [same]
    exact perform_under (expected.indifferent capacity) st
  · -- What is left is a change of a service that is not tracked, which the tracker takes up.
    obtain ⟨r, rfl, untracked⟩ : ∃ r, op = .apply (.modified r) ∧ t.contains r.id = false := by
      simpa [Expected] using expected
    have changed : t.apply o (.modified r) st = t.add o r st := by
      rw [apply, modify, not_contains_iff.1 untracked]
      exact if_pos eager
    have registered : t.asRegistration (.apply (.modified r)) = .apply (.registered r) := by
      rw [asRegistration, untracked]
      rfl
    rw [registered, perform, perform, changed]
    exact congrArg (Outcome.map Result.applied) (add_under r st fun _ => reached?_under capacity)

/-- The rewritten run has the same outcomes without eagerness as the run has with it. -/
lemma run_under_asRegistrations (eager : t.config.trackOnModified = true)
    (capacity : c.capacity = t.config.capacity) (ops : List (Operation rep.subject)) (st : σ) :
    (t.under c).run o (t.asRegistrations o ops st) st =
      (t.run o ops st).map fun out => out.under c := by
  induction ops generalizing t st with
  | nil => rfl
  | cons op ops ih =>
    have next : (t.perform o op st).tracker.config = t.config := config_perform t o op st
    rw [asRegistrations, run, run, perform_asRegistration eager capacity]
    refine congrArg ((t.perform o op st).under c :: ·) (ih ?_ ?_ _)
    · rw [next, eager]
    · rw [next, capacity]

/-- Where changes are not taken for registrations, it is these that services are taken up by. -/
lemma registered_of_gained (lazy : t.config.trackOnModified = false) {op : Operation rep.subject}
    {id : ServiceId} (before : t.contains id = false)
    (after : (t.perform o op st).tracker.contains id = true) :
    ∃ r, op = .apply (.registered r) ∧ r.id = id := by
  cases op with
  | apply e =>
    have intake := apply_intake t o e st
    have after : (t.apply o e st).tracker.contains id = true := after
    by_cases own : e.id = id
    · subst own
      rw [intake.contains_eq, before, wants, lazy] at after
      cases e with
      | registered r => exact ⟨r, rfl, rfl⟩
      | modified => simp [Event.asks] at after
      | unregistering => simp [Event.isLast] at after
    · rw [intake.touches.contains_of_ne own, before] at after
      cases after
  | remove id' =>
    have after : (t.remove o id' st).tracker.contains id = true := after
    rw [remove_tracker, contains_drop, before, Bool.and_false] at after
    cases after
  | close =>
    have after : (t.close o st).tracker.contains id = true := after
    rw [tracker_close, contains_fresh] at after
    cases after

/-- Taking services up when they change only rewrites what comes in. A run of a tracker that does so
is, step by step and with the same log, the run of one that does not on the operations in which each
change of a service that is not tracked at that time is its registration. So it makes no difference
to a run, either way, whether a tracker does so if no such change comes in; and one that does not
takes services up by their registrations alone. -/
theorem run_asRegistrations (config : Config) (o : Observer rep σ) (st : σ)
    (ops : List (Operation rep.subject)) :
    let eager : Config := { config with trackOnModified := true }
    let lazy : Config := { config with trackOnModified := false }
    let rewritten := (fresh eager).asRegistrations o ops st
    Outcome.AlikeUnder lazy ((fresh lazy).run o rewritten st) ((fresh eager).run o ops st) ∧
    (∀ b : Bool,
      let c : Config := { config with trackOnModified := b }
      let d : Config := { config with trackOnModified := !b }
      ((fresh c).Throughout o ops st fun t _ op => t.Expected op) →
        Outcome.AlikeUnder d ((fresh d).run o ops st) ((fresh c).run o ops st)) ∧
    ∀ op id,
      let t := ((fresh lazy).after o ops st).1
      t.contains id = false →
        (t.perform o op ((fresh lazy).after o ops st).2).tracker.contains id = true →
          ∃ r, op = .apply (.registered r) ∧ r.id = id := by
  intro eager lazy rewritten
  refine ⟨alikeUnder_of_eq rfl ?_, ?_, ?_⟩
  · exact run_under_asRegistrations (c := lazy) (t := fresh eager) rfl rfl ops st
  · intro b c d expected
    have indifferent : (fresh c).Throughout o ops st fun t _ op => Indifferent d t op := by
      intro before op later split
      refine (expected before op later split).indifferent ?_
      rw [config_after]
      rfl
    exact alikeUnder_of_eq rfl (run_under indifferent)
  · intro op id t before after
    refine registered_of_gained ?_ before after
    rw [config_after]
    rfl

/-- A script that grants leases to services whose ranking is not negative, but fails on the third. -/
def picky : Script :=
  ⟨{ welcome := .ranked, sample := .number 5 }, [(⟨3⟩, { welcome := .fail "worn out" })]⟩

/-- One service changes after the observer failed on it, one after it was declined, and one while
there is no room for it. -/
def belated : List (Operation Pair.lease.rep.subject) :=
  [.apply (.registered ⟨⟨3⟩, 0⟩), .apply (.modified ⟨⟨3⟩, 1⟩), .apply (.registered ⟨⟨1⟩, -1⟩),
    .apply (.modified ⟨⟨1⟩, 4⟩), .apply (.modified ⟨⟨1⟩, 5⟩), .apply (.modified ⟨⟨2⟩, 0⟩), .close,
    .apply (.modified ⟨⟨2⟩, 0⟩)]

/-- All changes but one are registrations; a run in which no others come in is the same either way. -/
theorem run_asRegistrations_belated :
    let eager : Config := ⟨"small", true, some 1⟩
    let lazy : Config := ⟨"small", false, some 1⟩
    let o := Pair.lease.scripted picky
    let w := World.ofThings []
    let expected : List (Operation Pair.lease.rep.subject) :=
      [.apply (.registered ⟨⟨1⟩, 4⟩), .apply (.modified ⟨⟨1⟩, 5⟩)]
    (fresh eager).asRegistrations o belated w =
      [.apply (.registered ⟨⟨3⟩, 0⟩), .apply (.registered ⟨⟨3⟩, 1⟩), .apply (.registered ⟨⟨1⟩, -1⟩),
        .apply (.registered ⟨⟨1⟩, 4⟩), .apply (.modified ⟨⟨1⟩, 5⟩), .apply (.registered ⟨⟨2⟩, 0⟩),
        .close, .apply (.registered ⟨⟨2⟩, 0⟩)] ∧
    Outcome.AlikeUnder lazy
      ((fresh lazy).run o ((fresh eager).asRegistrations o belated w) w)
      ((fresh eager).run o belated w) ∧
    ((fresh eager).Throughout o expected w fun t _ op => t.Expected op) ∧
    Outcome.AlikeUnder lazy ((fresh lazy).run o expected w) ((fresh eager).run o expected w) := by
  intro eager lazy o w expected
  obtain ⟨rewritten, -, -⟩ := run_asRegistrations eager o w belated
  obtain ⟨-, spared, -⟩ := run_asRegistrations eager o w expected
  have throughout : (fresh eager).Throughout o expected w fun t _ op => t.Expected op := by
    refine throughout_cons.2 ⟨nofun, throughout_cons.2 ⟨?_, throughout_nil⟩⟩
    rintro r ⟨⟩
    decide
  exact ⟨by decide, rewritten, throughout, spared true throughout⟩

end ServiceWatch.Tracker
