import Mathlib.Tactic.Lemma
import ServiceWatch.Service.Ranking

/-!
# Preference

One reference outranks another if its ranking is higher, or if it is older at the same ranking. This
is the order of references (`compare_eq_gt_iff`), so that of any references one is the best, which
outranks all others (`best?_eq_some_iff`).
-/

namespace ServiceWatch.Reference

variable {s : Subject} {a b c r : Reference s} {rs : List (Reference s)}

/-- The first reference is preferred to the second. -/
def Outranks (a b : Reference s) : Prop :=
  b.ranking < a.ranking ∨ b.ranking = a.ranking ∧ a.id.number < b.id.number

instance (a b : Reference s) : Decidable (a.Outranks b) :=
  inferInstanceAs (Decidable (_ ∨ _))

/-- The reference is one of those listed, and is preferred to all others. -/
def IsBest (rs : List (Reference s)) (r : Reference s) : Prop :=
  r ∈ rs ∧ ∀ other ∈ rs, other ≠ r → r.Outranks other

instance (rs : List (Reference s)) (r : Reference s) : Decidable (IsBest rs r) :=
  inferInstanceAs (Decidable (_ ∧ _))

/-- References are compared by ranking first, and then by service, the lower one being greater. -/
lemma compare_eq (a b : Reference s) :
    compare a b = (compare a.ranking b.ranking).then (compare b.id.number a.id.number) := rfl

/-- A reference is greater than another if it outranks it. -/
theorem compare_eq_gt_iff : compare a b = .gt ↔ a.Outranks b := by
  have higher : compare a.ranking b.ranking = .gt ↔ b.ranking < a.ranking := by
    rw [Std.OrientedCmp.gt_iff_lt]
    exact compareOfLessAndEq_eq_lt
  have older : compare b.id.number a.id.number = .gt ↔ a.id.number < b.id.number := by
    rw [Std.OrientedCmp.gt_iff_lt]
    exact compareOfLessAndEq_eq_lt
  rw [compare_eq, Ordering.then_eq_gt, higher, older, Std.LawfulEqCmp.compare_eq_iff_eq, Outranks,
    eq_comm (a := b.ranking)]

/-- What outranks one that outranks another outranks that too. -/
lemma Outranks.trans (first : a.Outranks b) (second : b.Outranks c) : a.Outranks c := by
  rw [← compare_eq_gt_iff] at first second ⊢
  exact Std.TransCmp.gt_trans first second

/-- No reference outranks itself. -/
lemma not_outranks_self (a : Reference s) : ¬ a.Outranks a := by
  rw [← compare_eq_gt_iff]
  have self : compare a a = .eq := Std.ReflCmp.compare_self
  rw [self]
  exact nofun

/-- Of two different references one outranks the other. -/
lemma outranks_of_not (le : ¬ a.Outranks b) (ne : a ≠ b) : b.Outranks a := by
  rw [← compare_eq_gt_iff] at le ⊢
  rw [Std.OrientedCmp.gt_iff_lt]
  cases order : compare a b with
  | lt => rfl
  | eq => exact absurd (Std.LawfulEqCmp.eq_of_compare order) ne
  | gt => exact absurd order le

/-- Of two references the better one is one of them, and outranks the other. -/
lemma isBest_better (a b : Reference s) : IsBest [a, b] (better a b) := by
  rw [better]
  split
  · next greater =>
    have second : b ≠ a → a.Outranks b := fun _ => compare_eq_gt_iff.1 greater
    exact ⟨List.mem_cons_self,
      List.forall_mem_cons.2 ⟨fun ne => absurd rfl ne, List.forall_mem_singleton.2 second⟩⟩
  · next le =>
    rw [compare_eq_gt_iff] at le
    have first : a ≠ b → b.Outranks a := outranks_of_not le
    exact ⟨List.mem_cons_of_mem a List.mem_cons_self,
      List.forall_mem_cons.2 ⟨first, List.forall_mem_singleton.2 fun ne => absurd rfl ne⟩⟩

/-- What is best with the better of two references is so with both of them. -/
lemma IsBest.of_better (best : IsBest (better a b :: rs) r) : IsBest (a :: b :: rs) r := by
  obtain ⟨mem, outranks⟩ := best
  obtain ⟨listed, wins⟩ := isBest_better a b
  have ahead : ∀ other ∈ [a, b], other ≠ r → r.Outranks other := by
    intro other pair ne
    by_cases won : other = better a b
    · exact won ▸ outranks _ List.mem_cons_self (won ▸ ne)
    · by_cases first : better a b = r
      · exact first ▸ wins other pair won
      · exact (outranks _ List.mem_cons_self first).trans (wins other pair won)
  show IsBest ([a, b] ++ rs) r
  refine ⟨?_, fun other mem ne => ?_⟩
  · rcases List.mem_cons.1 mem with rfl | mem
    · exact List.mem_append_left rs listed
    · exact List.mem_append_right _ mem
  · rcases List.mem_append.1 mem with pair | mem
    · exact ahead other pair ne
    · exact outranks other (List.mem_cons_of_mem _ mem) ne

/-- The best so far, taken through a list, is the best of all. -/
lemma isBest_foldl_better (r : Reference s) (rs : List (Reference s)) :
    IsBest (r :: rs) (rs.foldl better r) := by
  induction rs generalizing r with
  | nil => exact ⟨List.mem_cons_self, fun other mem ne => absurd (List.mem_singleton.1 mem) ne⟩
  | cons a rs ih => exact (ih (better r a)).of_better

/-- There is one best reference at most. -/
lemma IsBest.unique (best : IsBest rs a) (best' : IsBest rs b) : a = b := by
  by_cases eq : a = b
  · exact eq
  · have wins := best.2 b best'.1 (Ne.symm eq)
    exact absurd (wins.trans (best'.2 a best.1 eq)) (not_outranks_self a)

/-- What is the best does not depend on the order, or on how often a reference is listed. -/
lemma isBest_congr {rs' : List (Reference s)} (same : ∀ r, r ∈ rs ↔ r ∈ rs') :
    IsBest rs r ↔ IsBest rs' r := by
  simp only [IsBest, same]

/-- There is no best reference only among none at all. -/
lemma best?_eq_none_iff : best? rs = none ↔ rs = [] := by
  cases rs <;> simp [best?]

/-- What is found is the best reference. -/
theorem best?_eq_some_iff : best? rs = some r ↔ IsBest rs r := by
  cases rs with
  | nil => exact ⟨nofun, fun best => nomatch best.1⟩
  | cons a rs =>
    have best := isBest_foldl_better a rs
    rw [best?, Option.some.injEq]
    exact ⟨fun eq => eq ▸ best, best.unique⟩

end ServiceWatch.Reference
