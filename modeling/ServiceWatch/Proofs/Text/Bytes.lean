import Mathlib.Tactic.Lemma
import Mathlib.Tactic.SplitIfs

/-!
# The order of texts by their bytes

Texts are ordered by their characters, one after the other. The order of their bytes in UTF-8 is no
other one (`utf8_lt_utf8`): the first byte tells how many there are, more for greater characters,
and the bytes of a character are its digits, the greatest first.
-/

namespace ServiceWatch.Text

/-- The bytes of a text in UTF-8. -/
def utf8 (s : String) : List UInt8 := s.toUTF8.data.toList

/-- The bytes of a text are those of its characters, one after the other. -/
lemma utf8_eq (s : String) : utf8 s = s.toList.flatMap String.utf8EncodeChar := by
  rw [utf8, String.toUTF8_eq_toByteArray, ← String.utf8Encode_toList, List.utf8Encode,
    List.data_toByteArray]

/-- The number of a character has an upper bound. -/
lemma toNat_lt (c : Char) : c.val.toNat < 0x110000 := by
  have valid := c.valid
  simp only [UInt32.isValidChar, Nat.isValidChar] at valid
  omega

/-- Lists of bytes are compared by their first bytes, and by the rest if these are equal. -/
lemma byte_cons_lt {m n : Nat} {bs cs : List UInt8} (small : n < 256) (le : m ≤ n)
    (rest : m = n → bs < cs) : UInt8.ofNat m :: bs < UInt8.ofNat n :: cs := by
  rw [List.cons_lt_cons_iff]
  rcases Nat.lt_or_eq_of_le le with lt | rfl
  · left
    rw [UInt8.lt_iff_toNat_lt, UInt8.toNat_ofNat', UInt8.toNat_ofNat']
    omega
  · exact .inr ⟨rfl, rest rfl⟩

/-- A smaller character has smaller bytes, whatever comes after it. -/
lemma utf8EncodeChar_append_lt {c d : Char} (lt : c < d) (bs cs : List UInt8) :
    String.utf8EncodeChar c ++ bs < String.utf8EncodeChar d ++ cs := by
  have less : c.val.toNat < d.val.toNat := lt
  have bound : d.val.toNat < 0x110000 := toNat_lt d
  unfold String.utf8EncodeChar
  generalize c.val.toNat = m at less ⊢
  generalize d.val.toNat = n at less bound ⊢
  dsimp only
  -- Byte by byte: the characters would be the same if all their bytes were.
  split_ifs
  all_goals simp only [List.cons_append, List.nil_append]
  all_goals repeat first | omega | refine byte_cons_lt (by omega) (by omega) fun _ => ?_

/-- The bytes of characters are ordered as the characters are. -/
lemma flatMap_utf8EncodeChar_lt {cs ds : List Char} (lt : cs < ds) :
    cs.flatMap String.utf8EncodeChar < ds.flatMap String.utf8EncodeChar := by
  induction lt with
  | @nil d ds =>
    obtain ⟨b, bs, eq⟩ := List.exists_cons_of_ne_nil (String.utf8EncodeChar_ne_nil (c := d))
    rw [List.flatMap_cons, eq]
    exact List.nil_lt_cons ..
  | rel lt => exact utf8EncodeChar_append_lt lt _ _
  | cons _ ih => exact List.append_left_lt ih

/-- A text that is smaller by its characters is smaller by its bytes. -/
theorem utf8_lt_utf8 {s t : String} (lt : s < t) : utf8 s < utf8 t := by
  rw [utf8_eq, utf8_eq]
  exact flatMap_utf8EncodeChar_lt (String.lt_iff.1 lt)

/-- A text that is smaller by its characters is smaller by its bytes, as `compare` has it. -/
theorem utf8_lt_of_compare {s t : String} (lt : compare s t = .lt) : utf8 s < utf8 t :=
  utf8_lt_utf8 (compareOfLessAndEq_eq_lt.1 lt)

end ServiceWatch.Text
