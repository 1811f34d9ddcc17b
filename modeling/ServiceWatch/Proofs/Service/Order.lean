import Mathlib.Data.List.Dedup
import Mathlib.Data.Nat.Digits.Defs
import ServiceWatch.Proofs.Service.Preference

/-!
# The order of references

References are in a total order that agrees with all that tells them apart: two of them are equal in
it only if they are the same (`Std.LawfulEqOrd`), and the bytes that stand for a reference in a hash
are those of no other (`hashBytes_inj`). So a list of references has one ascending rearrangement,
however it was listed (`eq_of_perm`), whose end is the best reference (`best?_eq_getLast?`) and which
without repetitions is the set of what is listed (`distinct_eq_dedup`).
-/

namespace ServiceWatch.Reference

variable {s : Subject} {a b : Reference s} {rs rs' : List (Reference s)}

/-- References are equal if their services and their rankings are. -/
lemma eq_iff : a = b ↔ a.id = b.id ∧ a.ranking = b.ranking := by
  cases a
  cases b
  exact Iff.of_eq (mk.injEq ..)

/-- A number has as many bytes as are asked for. -/
lemma length_bytesOf (count n : Nat) : (bytesOf count n).length = count := by
  induction count generalizing n with
  | zero => rfl
  | succ count ih => exact congrArg (· + 1) (ih (n / 256))

/-- The bytes of a number are its digits, as far as they go. -/
lemma ofDigits_bytesOf (count n : Nat) :
    Nat.ofDigits 256 ((bytesOf count n).map UInt8.toNat) = n % 256 ^ count := by
  induction count generalizing n with
  | zero => exact (Nat.mod_one n).symm
  | succ count ih =>
    have lowest : (UInt8.ofNat n).toNat = n % 256 := UInt8.toNat_ofNat'
    rw [bytesOf, List.map_cons, Nat.ofDigits_cons, ih, lowest, pow_succ', Nat.mod_mul]

/-- Numbers that fit are told apart by their bytes. -/
lemma bytesOf_inj {count m n : Nat} (hm : m < 256 ^ count) (hn : n < 256 ^ count) :
    bytesOf count m = bytesOf count n ↔ m = n := by
  refine ⟨fun same => ?_, congrArg _⟩
  rw [← Nat.mod_eq_of_lt hm, ← Nat.mod_eq_of_lt hn, ← ofDigits_bytesOf, same, ofDigits_bytesOf]

/-- A hash is fed the same bytes for no two references. -/
theorem hashBytes_inj : a.hashBytes = b.hashBytes ↔ a = b := by
  refine ⟨fun same => ?_, congrArg _⟩
  have widths : (bytesOf 8 a.id.number.toNat).length = (bytesOf 8 b.id.number.toNat).length := by
    rw [length_bytesOf, length_bytesOf]
  obtain ⟨numbers, rankings⟩ := List.append_inj same widths
  have number : a.id.number = b.id.number :=
    UInt64.toNat_inj.1 ((bytesOf_inj a.id.number.toNat_lt b.id.number.toNat_lt).1 numbers)
  have ranking : a.ranking = b.ranking := by
    have word := (bytesOf_inj a.ranking.toUInt32.toNat_lt b.ranking.toUInt32.toNat_lt).1 rankings
    exact Int32.toBitVec_inj.1 (congrArg UInt32.toBitVec (UInt32.toNat_inj.1 word))
  exact eq_iff.2 ⟨congrArg ServiceId.mk number, ranking⟩

/-- Among references with the same ranking the lower service is the greater. -/
lemma compare_of_ranking_eq (same : a.ranking = b.ranking) : compare a b = compare b.id a.id := by
  have level : compare a.ranking b.ranking = .eq := Std.LawfulEqCmp.compare_eq_iff_eq.2 same
  rw [compare_eq, level]
  rfl

/-- Any two references can be compared. -/
lemma isLE_or_isLE (a b : Reference s) : (compare a b).isLE ∨ (compare b a).isLE := by
  have swapped : compare b a = (compare a b).swap := Std.OrientedCmp.eq_swap
  rw [swapped]
  cases compare a b with
  | lt => exact .inl rfl
  | eq => exact .inl rfl
  | gt => exact .inr rfl

/-- References that are neither less nor greater than each other are equal. -/
lemma eq_of_isLE (le : (compare a b).isLE) (ge : (compare b a).isLE) : a = b :=
  Std.LawfulEqCmp.eq_of_compare (Std.OrientedCmp.isLE_antisymm le ge)

/-- The greater of two different references outranks the other. -/
lemma outranks_of_isLE (le : (compare a b).isLE) (ne : a ≠ b) : b.Outranks a := by
  refine outranks_of_not (fun outranks => ?_) ne
  rw [← compare_eq_gt_iff] at outranks
  rw [outranks] at le
  cases le

/-- Sorting only rearranges. -/
lemma ascending_perm (rs : List (Reference s)) : (ascending rs).Perm rs :=
  List.mergeSort_perm rs _

/-- Sorted references ascend. -/
lemma pairwise_ascending (rs : List (Reference s)) :
    (ascending rs).Pairwise fun a b => (compare a b).isLE := by
  refine List.pairwise_mergeSort (fun a b c => Std.TransCmp.isLE_trans) (fun a b => ?_) rs
  rw [Bool.or_eq_true]
  exact isLE_or_isLE a b

/-- There is one way to list references from the least to the most preferred. -/
lemma eq_of_perm (perm : rs.Perm rs') (asc : rs.Pairwise fun a b => (compare a b).isLE)
    (asc' : rs'.Pairwise fun a b => (compare a b).isLE) : rs = rs' :=
  List.Perm.eq_of_pairwise (fun _ _ _ _ => eq_of_isLE) asc asc' perm

/-- Rearranged references are sorted alike. -/
lemma ascending_congr (perm : rs.Perm rs') : ascending rs = ascending rs' := by
  have same := ((ascending_perm rs).trans perm).trans (ascending_perm rs').symm
  exact eq_of_perm same (pairwise_ascending rs) (pairwise_ascending rs')

/-- What stands at the end of ascending references outranks all others. -/
lemma isBest_of_getLast? {r : Reference s} (last : (ascending rs).getLast? = some r) :
    IsBest rs r := by
  obtain ⟨others, split⟩ := List.getLast?_eq_some_iff.1 last
  have listed (other : Reference s) : other ∈ others ++ [r] ↔ other ∈ rs := by
    rw [← split]
    exact (ascending_perm rs).mem_iff
  have sorted := pairwise_ascending rs
  rw [split, List.pairwise_append] at sorted
  obtain ⟨-, -, below⟩ := sorted
  refine ⟨(listed r).1 (List.mem_append_right _ List.mem_cons_self), fun other mem ne => ?_⟩
  rcases List.mem_append.1 ((listed other).2 mem) with mem | mem
  · exact outranks_of_isLE (below other mem r List.mem_cons_self) ne
  · exact absurd (List.mem_singleton.1 mem) ne

/-- The best reference is the last of them when they are sorted. -/
lemma best?_eq_getLast? (rs : List (Reference s)) : best? rs = (ascending rs).getLast? := by
  cases last : (ascending rs).getLast? with
  | none =>
    have perm := ascending_perm rs
    rw [List.getLast?_eq_none_iff.1 last] at perm
    exact best?_eq_none_iff.2 perm.nil_eq.symm
  | some r => exact best?_eq_some_iff.2 (isBest_of_getLast? last)

/-- A set has what was put into it and what it had before. -/
lemma contains_foldl_insert (t : Table (Reference s) Unit) (rs : List (Reference s))
    (r : Reference s) :
    (rs.foldl (fun t r => t.insert r ()) t).contains r = (decide (r ∈ rs) || t.contains r) := by
  induction rs generalizing t with
  | nil => simp
  | cons first rs ih =>
    rw [List.foldl_cons, ih, Table.contains, Table.get?_insert]
    by_cases own : r = first <;> simp [own, Table.contains]

/-- The distinct references are those of the list. -/
lemma mem_distinct {r : Reference s} : r ∈ distinct rs ↔ r ∈ rs := by
  rw [distinct, Table.mem_keys_iff, contains_foldl_insert, Table.contains, Table.get?_empty]
  simp

/-- The distinct references ascend. -/
lemma pairwise_distinct (rs : List (Reference s)) :
    (distinct rs).Pairwise fun a b => (compare a b).isLE := by
  refine List.pairwise_map.2 ((Table.ascending _).imp fun {a b} less => ?_)
  rw [less]
  rfl

/-- A set of references is what is listed, from the least to the most preferred, each once. -/
lemma distinct_eq_dedup (rs : List (Reference s)) : distinct rs = (ascending rs).dedup := by
  have once : (distinct rs).Nodup := Table.nodup_keys _
  have same : (distinct rs).Perm (ascending rs).dedup := by
    refine (List.perm_ext_iff_of_nodup once (List.nodup_dedup _)).2 fun r => ?_
    rw [mem_distinct, List.mem_dedup, (ascending_perm rs).mem_iff]
  exact eq_of_perm same (pairwise_distinct rs)
    ((pairwise_ascending rs).sublist (List.dedup_sublist _))

/-- References are totally ordered, in agreement with all else that is known of them. The order

* is reflexive, total, antisymmetric and transitive, and turns around with its arguments;
* holds two references equal exactly if they are the same, which is to have one number and one
  ranking, and exactly if a hash is fed the same bytes for both;
* puts the higher of two rankings above the lower, below zero as well, and of two services that are
  ranked alike the older one above the newer.

To see references under another subject, or under none, changes nothing of this and can be undone.
So references have one ascending list, however they were listed, with the best of them at its end,
and without repetitions it is the set of them. -/
theorem order_consistent (s : Subject) :
    (∀ a b c : Reference s,
      compare a a = .eq ∧ compare b a = (compare a b).swap ∧
      ((compare a b).isLE ∨ (compare b a).isLE) ∧
      ((compare a b).isLE → (compare b a).isLE → a = b) ∧
      ((compare a b).isLE → (compare b c).isLE → (compare a c).isLE)) ∧
    (∀ a b : Reference s,
      (compare a b = .eq ↔ a = b) ∧ (a = b ↔ a.id = b.id ∧ a.ranking = b.ranking) ∧
      (a.hashBytes = b.hashBytes ↔ a = b) ∧
      (b.ranking.toInt < a.ranking.toInt → compare a b = .gt) ∧
      (a.ranking = b.ranking → compare a b = compare b.id a.id)) ∧
    (∀ (u : Subject) (a b : Reference s),
      (a.cast u).id = a.id ∧ (a.cast u).ranking = a.ranking ∧
      compare (a.cast u) (b.cast u) = compare a b ∧ (a.cast u = b.cast u ↔ a = b) ∧
      (a.cast u).hashBytes = a.hashBytes ∧ (a.cast u).cast s = a ∧
      a.erase = a.cast .untyped ∧ a.erase.cast s = a) ∧
    (∀ rs rs' : List (Reference s), rs.Perm rs' → ascending rs = ascending rs') ∧
    ∀ rs : List (Reference s),
      (ascending rs).Perm rs ∧ ((ascending rs).Pairwise fun a b => (compare a b).isLE) ∧
      best? rs = (ascending rs).getLast? ∧ distinct rs = (ascending rs).dedup := by
  refine ⟨fun a b c => ?_, fun a b => ?_, fun u a b => ?_, fun rs rs' => ascending_congr,
    fun rs => ?_⟩
  · exact ⟨Std.ReflCmp.compare_self, Std.OrientedCmp.eq_swap, isLE_or_isLE a b, eq_of_isLE,
      Std.TransCmp.isLE_trans⟩
  · refine ⟨Std.LawfulEqCmp.compare_eq_iff_eq, eq_iff, hashBytes_inj,
      fun higher => ?_, compare_of_ranking_eq⟩
    exact compare_eq_gt_iff.2 (.inl (Int32.lt_iff_toInt_lt.2 higher))
  · refine ⟨rfl, rfl, rfl, ⟨fun same => ?_, congrArg _⟩, rfl, rfl, rfl, rfl⟩
    show (a.cast u).cast s = (b.cast u).cast s
    rw [same]
  · exact ⟨ascending_perm rs, pairwise_ascending rs, best?_eq_getLast? rs, distinct_eq_dedup rs⟩

/-- Three services, one of them listed twice and one with a ranking below zero. -/
theorem order_consistent_mixed :
    let first : Reference .untyped := ⟨⟨1⟩, -1⟩
    let older : Reference .untyped := ⟨⟨3⟩, 5⟩
    let newer : Reference .untyped := ⟨⟨9⟩, 5⟩
    let listed := [older, newer, first, older]
    let again := [first, older, older, newer]
    (compare first newer).isLE ∧ (compare newer older).isLE ∧ (compare first older).isLE ∧
      first.ranking.toInt < older.ranking.toInt ∧ compare older first = .gt ∧
      older.ranking = newer.ranking ∧ compare older newer = compare newer.id older.id ∧
      listed.Perm again ∧ ascending listed = ascending again ∧
      ascending listed = [first, newer, older, older] ∧ (ascending listed).getLast? = some older ∧
      (ascending listed).dedup = [first, newer, older] := by
  intro first older newer listed again
  obtain ⟨laws, agreement, -, congr, sorted⟩ := order_consistent .untyped
  obtain ⟨-, -, -, -, trans⟩ := laws first newer older
  obtain ⟨-, -, -, higher, -⟩ := agreement older first
  obtain ⟨-, -, -, -, level⟩ := agreement older newer
  obtain ⟨-, -, best, set⟩ := sorted listed
  have perm : listed.Perm again := by decide
  have asc : [first, newer, older, older].Pairwise fun a b => (compare a b).isLE := by decide
  have rearranged : [first, newer, older, older].Perm listed := by decide
  have there : [first, newer, older, older] = ascending listed :=
    eq_of_perm (rearranged.trans (ascending_perm listed).symm) asc (pairwise_ascending listed)
  exact ⟨by decide, by decide, trans (by decide) (by decide), by decide, higher (by decide), rfl,
    level rfl, perm, congr listed again perm, there.symm, best ▸ by decide, set ▸ by decide⟩

end ServiceWatch.Reference
