import Mathlib.Data.List.Nodup
import ServiceWatch.Proofs.Toml.Number
import ServiceWatch.Proofs.Toml.Quote
import ServiceWatch.Toml.Codec

/-!
# Records written and read back

What is written for a field that fits is `Spelled` by the grammar, so a record is written as lines
that each set a key (`exists_lines`). Any reader that keeps to the grammar finds the fields that are
set behind any writer that keeps to the forms (`parse_render`).
-/

namespace ServiceWatch.Toml

variable {ε δ : Type} {f : Field} {v : Value} {fields : List (String × Field)}

/-- What is written for a field that fits stands for its value. -/
lemma Field.spelled_written {written : List Char} (fits : f.Fits)
    (set : f.written? = some written) : ∃ v, f.value? = some v ∧ Spelled written v := by
  cases f with
  | text s =>
    cases set
    have spelled := Spelled.text (Quote.quoted_writeBest s.toList)
    rw [String.ofList_toList] at spelled
    exact ⟨_, rfl, spelled⟩
  | truth b =>
    cases set
    exact ⟨_, rfl, .truth b⟩
  | count n? =>
    cases n? with
    | none => cases set
    | some n =>
      cases set
      have number := decimalValue_toDigits n
      have spelled := Spelled.count (whole_toDigits n) (number.symm ▸ fits)
      rw [number] at spelled
      exact ⟨_, rfl, spelled⟩

/-- Nothing is written for a field that is not set. -/
lemma Field.value?_eq_none (unset : f.written? = none) : f.value? = none := by
  cases f with
  | count n? =>
    cases n? with
    | none => rfl
    | some n => cases unset
  | _ => cases unset

/-- The fields that are set, with their values. -/
def Field.entries (fields : List (String × Field)) : Document :=
  fields.filterMap fun f => f.2.value?.map fun v => (f.1, v)

/-- What is written for a record is made of lines that set its fields. -/
lemma Field.exists_lines (bare : ∀ f ∈ fields, BareKey f.1) (fits : ∀ f ∈ fields, f.2.Fits) :
    ∃ ls : List Line, ls.flatMap Line.text = fields.flatMap line ∧
      ls.map Line.entry = entries fields ∧ (ls.map Line.key).Sublist (fields.map Prod.fst) := by
  induction fields with
  | nil => exact ⟨[], rfl, rfl, .slnil⟩
  | cons f fields ih =>
    rw [List.forall_mem_cons] at bare fits
    obtain ⟨ls, text, entry, keys⟩ := ih bare.2 fits.2
    cases set : f.2.written? with
    | none =>
      -- No line is written, so the keys of the lines are only some of the keys of the record.
      refine ⟨ls, ?_, ?_, keys.cons f.1⟩
      · rw [List.flatMap_cons, line, set, List.nil_append, text]
      · rw [entries, List.filterMap_cons, value?_eq_none set, ← entries, entry]
        rfl
    | some written =>
      obtain ⟨v, value, spelled⟩ := spelled_written fits.1 set
      refine ⟨⟨f.1, written, v, bare.1, spelled⟩ :: ls, ?_, ?_, keys.cons_cons f.1⟩
      · rw [List.flatMap_cons, List.flatMap_cons, line, set, text]
        rfl
      · rw [entries, List.filterMap_cons, value, ← entries, ← entry]
        rfl

/-- A record that fits is written, and its fields that are set are read back. -/
theorem parse_render {decoder : Decoder ε} {encoder : Encoder δ} (reads : decoder.ReadsLines)
    (writes : encoder.WritesLines) (bare : ∀ f ∈ fields, BareKey f.1)
    (distinct : (fields.map Prod.fst).Nodup) (fits : ∀ f ∈ fields, f.2.Fits) :
    ∃ text, encoder.render fields = .ok text ∧ decoder.parse text = .ok (Field.entries fields) := by
  obtain ⟨ls, text, entry, keys⟩ := Field.exists_lines bare fits
  refine ⟨_, (writes.lines bare distinct).2 ⟨fits, rfl⟩, ?_⟩
  rw [← text, ← entry]
  exact reads.lines (keys.nodup distinct)

end ServiceWatch.Toml
