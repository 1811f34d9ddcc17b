import Mathlib.Data.Nat.Digits.Defs
import ServiceWatch.Proofs.Toml.Quote
import Std.Data.String.ToNat

/-!
# Reading integers back

A natural number in decimal, at the end of a line, is read as that number as long as it fits into 64
bits (`readNumber_whole`), and as no point in time (`dateTime_read_digits`).
-/

namespace ServiceWatch.Toml

section Digits

variable {ds r : List Char}

/-- The digits of a positive number do not begin with zero. -/
lemma head?_toDigits {n : Nat} (positive : 0 < n) : (Nat.toDigits 10 n).head? ≠ some '0' := by
  induction n using Nat.strongRecOn with
  | ind n ih =>
    rw [Nat.toDigits_eq_if (by decide)]
    split
    · intro zero
      have := Nat.digitChar_eq_zero.1 (Option.some.inj zero)
      omega
    · have first := ih (n / 10) (by omega) (by omega)
      rwa [List.head?_append, Option.or_of_isSome (List.isSome_head?.2 Nat.toDigits_ne_nil)]

/-- The digits of a number have no needless zero. -/
lemma whole_toDigits (n : Nat) : Whole (Nat.toDigits 10 n) where
  digits _ mem := Nat.isDigit_of_mem_toDigits (by decide) (by decide) mem
  ne_nil := Nat.toDigits_ne_nil
  unpadded {ds'} padded := by
    rcases Nat.eq_zero_or_pos n with rfl | positive
    · rw [Nat.toDigits_zero] at padded
      exact (List.cons.inj padded).2.symm
    · exact absurd (congrArg List.head? padded) (head?_toDigits positive)

/-- The digits of a number have it as their value. -/
lemma decimalValue_toDigits (n : Nat) : decimalValue (Nat.toDigits 10 n) = n :=
  Nat.ofDigitChars_toDigits (by decide) (by decide)

/-- Digits are read to the end of the line. -/
lemma moreDigits_append (digits : ∀ c ∈ ds, c.isDigit = true) :
    moreDigits Char.isDigit (ds ++ '\n' :: r) = (ds, '\n' :: r) := by
  induction ds with
  | nil =>
    rw [List.nil_append, moreDigits]
    · rfl
    · exact nofun
    · exact nofun
  | cons c ds ih =>
    rw [List.forall_mem_cons] at digits
    have other : c ≠ '_' := ne_of_holds digits.1 rfl
    rw [List.cons_append, moreDigits, if_pos digits.1, ih digits.2]
    · exact fun h => absurd h other
    · exact fun _ _ h => absurd h other

/-- Digits without a needless zero are read to the end of the line. -/
lemma wholeDigits_append (whole : Whole ds) :
    wholeDigits (ds ++ '\n' :: r) = some (ds, '\n' :: r) := by
  obtain ⟨digits, ne_nil, unpadded⟩ := whole
  cases ds with
  | nil => exact absurd rfl ne_nil
  | cons c ds =>
    by_cases zero : c = '0'
    · subst zero
      rw [unpadded rfl]
      rfl
    · rw [List.forall_mem_cons] at digits
      rw [wholeDigits, List.cons_append, Toml.digits, if_pos digits.1, moreDigits_append digits.2]
      exact fun _ h => zero (List.cons.inj h).1

end Digits

section DateTime

variable {ds r : List Char}

/-- What stands between the numbers of a date or a time does not stand in a number. -/
lemma expect_of_fixedNumber (digits : ∀ c ∈ ds, c.isDigit = true) {acc count n : Nat}
    {rest : List Char} (number : fixedNumber acc count (ds ++ '\n' :: r) = some (n, rest))
    {c : Char} (between : c.isDigit = false) (feed : c ≠ '\n') : expect c rest = none := by
  induction count generalizing acc ds with
  | zero =>
    obtain ⟨rfl, rfl⟩ := Prod.mk.inj (Option.some.inj number)
    cases ds with
    | nil => exact if_neg feed.symm
    | cons d ds => exact if_neg (ne_of_holds (digits d List.mem_cons_self) between)
  | succ count ih =>
    cases ds with
    | nil => cases number
    | cons d ds =>
      rw [List.forall_mem_cons] at digits
      rw [List.cons_append, fixedNumber, if_pos digits.1] at number
      exact ih digits.2 number

/-- Digits alone are no point in time. -/
lemma dateTime_read_digits (digits : ∀ c ∈ ds, c.isDigit = true) :
    DateTime.read (ds ++ '\n' :: r) = none := by
  have date : Date.read (ds ++ '\n' :: r) = none := by
    rw [Date.read]
    cases year : fixedNumber 0 4 (ds ++ '\n' :: r) with
    | none => rfl
    | some found =>
      have hyphen := expect_of_fixedNumber digits year (c := '-') rfl (by decide)
      simp [hyphen]
  have time : Time.read (ds ++ '\n' :: r) = none := by
    rw [Time.read]
    cases hour : fixedNumber 0 2 (ds ++ '\n' :: r) with
    | none => rfl
    | some found =>
      have colon := expect_of_fixedNumber digits hour (c := ':') rfl (by decide)
      simp [colon]
  rw [DateTime.read, date, time]
  rfl

end DateTime

section Integer

variable {ds : List Char}

/-- Digits without a needless zero do not begin with the mark of a base. -/
lemma Whole.unmarked (whole : Whole ds) {c : Char} (letter : c.isDigit = false) (other : c ≠ '\n')
    (r r' : List Char) : ds ++ '\n' :: r ≠ '0' :: c :: r' := by
  intro h
  match ds, whole with
  | [], whole => exact whole.ne_nil rfl
  | [_], _ => exact other (List.cons.inj (List.cons.inj h).2).1.symm
  | _ :: d :: _, whole =>
    have digit := whole.digits d (List.mem_cons_of_mem _ List.mem_cons_self)
    exact ne_of_holds digit letter (List.cons.inj (List.cons.inj h).2).1

/-- Digits have no sign before them. -/
lemma Whole.unsigned (whole : Whole ds) (r : List Char) :
    sign (ds ++ '\n' :: r) = (false, ds ++ '\n' :: r) := by
  match ds, whole with
  | [], whole => exact absurd rfl whole.ne_nil
  | d :: ds, whole =>
    have digit := whole.digits d List.mem_cons_self
    rw [sign]
    · exact fun _ h => ne_of_holds digit rfl (List.cons.inj h).1
    · exact fun _ h => ne_of_holds digit rfl (List.cons.inj h).1

/-- Digits at the end of a line are read as the integer that they write. -/
lemma readNumber_whole (whole : Whole ds) (fits : decimalValue ds ≤ 9223372036854775807)
    (r : List Char) :
    readNumber (ds ++ '\n' :: r) = some (.integer (decimalValue ds), '\n' :: r) := by
  have integer : integer? (signed false (decimalValue ds)) = some (.integer (decimalValue ds)) :=
    if_pos (by rw [signed, if_neg Bool.false_ne_true]; omega)
  rw [readNumber]
  · rw [whole.unsigned]
    simp only [wholeDigits_append whole]
    show ((integer? (signed false (decimalValue ds))).bind fun v => some (v, '\n' :: r)) = _
    rw [integer]
    rfl
  · exact fun r' => whole.unmarked rfl (by decide) r r'
  · exact fun r' => whole.unmarked rfl (by decide) r r'
  · exact fun r' => whole.unmarked rfl (by decide) r r'

end Integer

end ServiceWatch.Toml
