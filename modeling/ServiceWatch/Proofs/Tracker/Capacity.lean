import ServiceWatch.Proofs.Tracker.Membership
import ServiceWatch.Proofs.Tracker.Trace
import ServiceWatch.World.Script

/-!
# Capacities

Two trackers do the same, and only the capacity of the second is larger. Then the second tracks
every service that the first does, provided that it is the reference alone which decides whether
the observer accepts. What carries this through a run is a bound on how many services the second
tracks beyond those of the first (`Within.gap`): it cannot be full while the first has room, so it
never misses a service that the first takes up.
-/

namespace ServiceWatch

/-- Capacities in order; to have none is to have room for all. -/
def capacityLE : Option Nat → Option Nat → Prop
  | _, none => True
  | none, some _ => False
  | some m, some n => m ≤ n

/-- The observer accepts a service or not by its reference alone. -/
def Observer.Decides {rep : Representation} {σ : Type} (o : Observer rep σ)
    (accept : Reference rep.subject → Bool) : Prop :=
  ∀ r st, rep.accepts (o.adding r st).answer = accept r

namespace Tracker

variable {rep : Representation} {σ₁ σ₂ : Type}

/-- The first tracker tracks no service that the second does not, and what the second tracks beyond
that is no more than what its capacity is larger. -/
structure Within (t₁ t₂ : Tracker rep) : Prop where
  eager : t₁.config.trackOnModified = t₂.config.trackOnModified
  subset : ∀ id, t₁.contains id = true → t₂.contains id = true
  gap : ∀ n, t₂.config.capacity = some n →
    ∃ m, t₁.config.capacity = some m ∧ m ≤ n ∧ t₂.size + m ≤ t₁.size + n

/-- A fresh tracker is within a fresh one that has no less capacity. -/
lemma within_fresh {c : Config} {k₁ k₂ : Option Nat} (le : capacityLE k₁ k₂) :
    Within (fresh { c with capacity := k₁ } : Tracker rep) (fresh { c with capacity := k₂ }) := by
  refine ⟨rfl, fun _ h => h, ?_⟩
  rintro n ⟨⟩
  cases k₁ with
  | none => exact le.elim
  | some m => exact ⟨m, rfl, le, Nat.add_le_add_left le 0⟩

/-- Where the first tracker has room, the second has. -/
lemma Within.room {t₁ t₂ : Tracker rep} (within : Within t₁ t₂)
    (room : t₁.reached?.isNone = true) : t₂.reached?.isNone = true := by
  cases bound₂ : t₂.config.capacity with
  | none => rw [reached?_of_unbounded bound₂, Option.isNone_none]
  | some n =>
    obtain ⟨m, bound₁, _, gap⟩ := within.gap n bound₂
    rw [isNone_reached? bound₁, decide_eq_true_iff] at room
    rw [isNone_reached? bound₂, decide_eq_true_iff]
    omega

/-- Steps of both trackers that touch the same service keep `Within`, if the second tracker has the
service where the first has it, gives it up where the first does, and takes it up alone only where
it has room and the first has not. -/
lemma Within.touch {t₁ t₂ u₁ u₂ : Tracker rep} (within : Within t₁ t₂) {id : ServiceId}
    (touch₁ : t₁.Touches u₁ id) (touch₂ : t₂.Touches u₂ id)
    (kept : u₁.contains id = true → u₂.contains id = true)
    (lost : t₁.contains id = true → u₁.contains id = false → u₂.contains id = false)
    (alone : t₂.contains id = false → u₁.contains id = false → u₂.contains id = true →
      t₁.reached?.isNone = false ∧ t₂.reached?.isNone = true) : Within u₁ u₂ := by
  refine ⟨?_, fun id' tracked => ?_, fun n bound₂ => ?_⟩
  · rw [touch₁.config_eq, touch₂.config_eq]
    exact within.eager
  · by_cases h : id = id'
    · subst h
      exact kept tracked
    · rw [touch₁.contains_of_ne h] at tracked
      rw [touch₂.contains_of_ne h]
      exact within.subset id' tracked
  · rw [touch₂.config_eq] at bound₂
    obtain ⟨m, bound₁, le, gap⟩ := within.gap n bound₂
    refine ⟨m, by rw [touch₁.config_eq, bound₁], le, ?_⟩
    have size₁ := touch₁.size_eq
    have size₂ := touch₂.size_eq
    have sub := within.subset id
    by_cases gained : t₂.contains id = false ∧ u₁.contains id = false ∧ u₂.contains id = true
    · -- The bound is used up by a service that the first has no room for.
      obtain ⟨before₂, after₁, after₂⟩ := gained
      obtain ⟨full, room⟩ := alone before₂ after₁ after₂
      have before₁ : t₁.contains id = false := Bool.eq_false_iff.2 (mt sub (by simp [before₂]))
      rw [isNone_reached? bound₁, decide_eq_false_iff_not] at full
      rw [isNone_reached? bound₂, decide_eq_true_iff] at room
      simp only [before₁, before₂, after₁, after₂, Bool.toNat_true, Bool.toNat_false] at size₁ size₂
      omega
    · have balance : (u₂.contains id).toNat + (t₁.contains id).toNat ≤
          (u₁.contains id).toNat + (t₂.contains id).toNat := by
        cases before₁ : t₁.contains id <;> cases before₂ : t₂.contains id <;>
          cases after₁ : u₁.contains id <;> cases after₂ : u₂.contains id <;> simp_all
      omega

/-- Dropping a service from both trackers keeps one within the other. -/
lemma Within.drop {t₁ t₂ : Tracker rep} (within : Within t₁ t₂) (id : ServiceId) :
    Within (t₁.drop id) (t₂.drop id) := by
  refine within.touch (touches_drop t₁ id) (touches_drop t₂ id) ?_ ?_ ?_ <;>
    simp [contains_drop]

/-- Making both trackers anew keeps one within the other. -/
lemma Within.renew {t₁ t₂ : Tracker rep} (within : Within t₁ t₂) :
    Within (fresh t₁.config : Tracker rep) (fresh t₂.config) := by
  refine ⟨within.eager, fun _ h => h, fun n bound => ?_⟩
  obtain ⟨m, bound₁, le, _⟩ := within.gap n bound
  exact ⟨m, bound₁, le, Nat.add_le_add_left le 0⟩

variable {accept : Reference rep.subject → Bool} {o₁ : Observer rep σ₁} {o₂ : Observer rep σ₂}

/-- An event keeps one tracker within the other if both observers decide alike. -/
lemma Within.apply {t₁ t₂ : Tracker rep} (within : Within t₁ t₂) (decides₁ : o₁.Decides accept)
    (decides₂ : o₂.Decides accept) (e : Event rep.subject) (st₁ : σ₁) (st₂ : σ₂) :
    Within (t₁.apply o₁ e st₁).tracker (t₂.apply o₂ e st₂).tracker := by
  have intake₁ := apply_intake t₁ o₁ e st₁
  have intake₂ := apply_intake t₂ o₂ e st₂
  generalize t₁.apply o₁ e st₁ = out₁ at intake₁ ⊢
  generalize t₂.apply o₂ e st₂ = out₂ at intake₂ ⊢
  have after₁ := intake₁.contains_eq
  have after₂ := intake₂.contains_eq
  rw [decides₁, wants, within.eager] at after₁
  rw [decides₂, wants] at after₂
  have sub := within.subset e.id
  have room := within.room
  refine within.touch intake₁.touches intake₂.touches ?_ ?_ ?_
  · rw [after₁, after₂]
    grind
  · rw [after₁, after₂]
    grind
  · rw [after₁, after₂]
    grind

/-- An operation keeps one tracker within the other if both observers decide alike. -/
lemma Within.perform {t₁ t₂ : Tracker rep} (within : Within t₁ t₂)
    (decides₁ : o₁.Decides accept) (decides₂ : o₂.Decides accept) (op : Operation rep.subject)
    (st₁ : σ₁) (st₂ : σ₂) :
    Within (t₁.perform o₁ op st₁).tracker (t₂.perform o₂ op st₂).tracker := by
  cases op with
  | apply e => exact within.apply decides₁ decides₂ e st₁ st₂
  | remove id =>
    have dropped := within.drop id
    rw [← remove_tracker t₁ o₁ id st₁, ← remove_tracker t₂ o₂ id st₂] at dropped
    exact dropped
  | close =>
    have renewed := within.renew
    rw [← tracker_close t₁ o₁ st₁, ← tracker_close t₂ o₂ st₂] at renewed
    exact renewed

/-- One tracker stays within the other whatever is done to both. -/
lemma Within.after {t₁ t₂ : Tracker rep} (within : Within t₁ t₂)
    (decides₁ : o₁.Decides accept) (decides₂ : o₂.Decides accept)
    (ops : List (Operation rep.subject)) (st₁ : σ₁) (st₂ : σ₂) :
    Within (t₁.after o₁ ops st₁).1 (t₂.after o₂ ops st₂).1 := by
  induction ops generalizing t₁ t₂ st₁ st₂ with
  | nil => exact within
  | cons op ops ih => exact ih (within.perform decides₁ decides₂ op st₁ st₂) _ _

/-- A larger capacity loses no service. Of two trackers whose settings differ in the capacity only,
under observers that accept the same references, the one with the larger capacity tracks all that
the other tracks after any operations, and exceeds it by at most the difference. -/
theorem tracked_of_larger_capacity (config : Config) {k₁ k₂ : Option Nat}
    (le : capacityLE k₁ k₂) (decides₁ : o₁.Decides accept) (decides₂ : o₂.Decides accept)
    (ops : List (Operation rep.subject)) (st₁ : σ₁) (st₂ : σ₂) :
    let t₁ := ((fresh { config with capacity := k₁ }).after o₁ ops st₁).1
    let t₂ := ((fresh { config with capacity := k₂ }).after o₂ ops st₂).1
    t₁.ids ⊆ t₂.ids ∧
      ∀ n, k₂ = some n → ∃ m, k₁ = some m ∧ t₂.size ≤ t₁.size + (n - m) := by
  intro t₁ t₂
  have within : Within t₁ t₂ := (within_fresh le).after decides₁ decides₂ ops st₁ st₂
  constructor
  · intro id tracked
    rw [ids, Table.mem_keys_iff] at tracked ⊢
    exact within.subset id tracked
  · rintro n rfl
    have bound₂ : t₂.config.capacity = some n := by
      rw [config_after]
      rfl
    obtain ⟨m, bound₁, le, gap⟩ := within.gap n bound₂
    rw [config_after] at bound₁
    exact ⟨m, bound₁, by omega⟩

/-- A script that grants leases to services whose ranking is not negative. -/
def grants : Script := ⟨{ welcome := .ranked, sample := .number 5 }, []⟩

/-- The script accepts a service by its reference alone. -/
lemma grants_decides :
    (Pair.lease.scripted grants).Decides fun r => !decide (r.ranking < 0) := by
  intro r w
  show Pair.lease.rep.accepts (Pair.lease.welcome grants.fallback r w).answer =
    !decide (r.ranking < 0)
  by_cases h : r.ranking < 0
  · have answer : (Pair.lease.welcome grants.fallback r w).answer = .ok Pair.lease.rep.absent := by
      simp [grants, Pair.welcome, h]
    rw [answer, decide_eq_true h]
    rfl
  · have answer : (Pair.lease.welcome grants.fallback r w).answer =
        .ok (Pair.lease.treatment.build (w.registry.offering r.id) (.number 5)) := by
      simp [grants, Pair.welcome, h]
    rw [answer, decide_eq_false h]
    rfl

/-- Five operations on two lease trackers, the second of which may track one service more. -/
theorem tracked_of_larger_capacity_leases :
    let o := Pair.lease.scripted grants
    let ops := [.apply (.registered ⟨⟨1⟩, 0⟩), .apply (.registered ⟨⟨2⟩, -1⟩),
      .apply (.registered ⟨⟨3⟩, 0⟩), .remove ⟨1⟩, .apply (.modified ⟨⟨4⟩, 2⟩)]
    let t₁ := ((fresh ⟨"small", true, some 1⟩).after o ops (.ofThings [])).1
    let t₂ := ((fresh ⟨"small", true, some 2⟩).after o ops (.ofThings [])).1
    capacityLE (some 1) (some 2) ∧ o.Decides (fun r => !decide (r.ranking < 0)) ∧
      t₁.ids = [⟨4⟩] ∧ t₂.ids = [⟨3⟩, ⟨4⟩] ∧ t₁.ids ⊆ t₂.ids ∧
      ∀ n, some 2 = some n → ∃ m, some 1 = some m ∧ t₂.size ≤ t₁.size + (n - m) := by
  intro o ops t₁ t₂
  have le : capacityLE (some 1) (some 2) := Nat.le_succ 1
  exact ⟨le, grants_decides, by decide, by decide,
    tracked_of_larger_capacity ⟨"small", true, none⟩ le grants_decides grants_decides ops _ _⟩

end Tracker

end ServiceWatch
