import ServiceWatch.Proofs.Toml.Fits
import ServiceWatch.Proofs.Toml.Line
import ServiceWatch.Toml.Standard

/-!
# The standard reader and writer keep the rules

All that is relied on about a reader and a writer holds of those that run.
-/

namespace ServiceWatch.Toml

variable {text : String} {d : Document} {v : Value}

/-- The text that a value is, if it is one. -/
lemma Value.text?_eq_some_iff {s : String} : v.text? = some s ↔ v = .string s := by
  cases v <;> simp [text?]

/-- The truth that a value is, if it is one. -/
lemma Value.truth?_eq_some_iff {b : Bool} : v.truth? = some b ↔ v = .boolean b := by
  cases v <;> simp [truth?]

/-- A natural number is what an integer counts. -/
lemma Value.count?_eq_some_iff {n : Nat} : v.count? = some n ↔ v = .integer n := by
  cases v with
  | integer m =>
    rw [count?, Value.integer.injEq]
    split
    · next counts =>
      rw [Option.some.injEq]
      omega
    · next negative => exact ⟨nofun, fun same => absurd (same ▸ Int.natCast_nonneg n) negative⟩
  | _ => simp [count?]

/-- What the standard reader hands over is what it parsed. -/
lemma Decoder.parse_standard_eq_ok_iff :
    standard.parse text = .ok d ↔ Document.parse? text = some d := by
  simp only [standard]
  cases Document.parse? text <;> simp

/-- A text that is in order is handed over entry by entry. -/
theorem Decoder.handsOver_standard :
    standard.HandsOver fun text d => Document.parse? text = some d where
  entries parsed := parse_standard_eq_ok_iff.2 parsed
  distinct parsed := nodup_parse? parsed

/-- Values are converted to their own types. -/
theorem Decoder.converts_standard : standard.Converts where
  text v s := by cases v <;> simp [standard]
  truth v b := by cases v <;> simp [standard]
  count v n := by
    rw [← Value.count?_eq_some_iff]
    cases v with
    | integer m => by_cases counts : 0 ≤ m <;> simp [standard, Value.count?, counts]
    | _ => simp [standard, Value.count?]

/-- Lines are read by the grammar, and integers have 64 bits. -/
theorem Decoder.readsLines_standard : standard.ReadsLines where
  lines distinct := parse_standard_eq_ok_iff.2 (parse?_text distinct)
  fits parsed := fits_parse? (parse_standard_eq_ok_iff.1 parsed)

/-- Fields are written line by line if they fit. -/
theorem Encoder.writesLines_standard : standard.WritesLines where
  lines {fields text} _ _ := by
    show (if ∀ f ∈ fields, f.2.Fits then Except.ok (String.ofList (fields.flatMap Field.line))
      else .error WriteFault.tooLarge) = _ ↔ _
    split
    · next fits =>
      rw [Except.ok.injEq, eq_comm]
      exact ⟨fun same => ⟨fits, same⟩, And.right⟩
    · next large => exact ⟨nofun, fun written => absurd written.1 large⟩

end ServiceWatch.Toml
