import ServiceWatch.Proofs.Config.Fields
import ServiceWatch.Proofs.Toml.Record

/-!
# Configurations written and read back

Reader and writer are any that keep the rules. A configuration that fits is a record that fits
(`fits_fields_iff`), so it is written and its fields are found again (`decode_of_writable`). The
other way round, a capacity that comes from a document is an integer of 64 bits, so it can be
written again (`writable_of_decode`).
-/

namespace ServiceWatch

open Toml

namespace Config

variable {ε δ : Type} {decoder : Decoder ε} {encoder : Encoder δ} {c : Config}

/-- The capacity, if there is one, is small enough to be written. -/
def Writable (c : Config) : Prop := ∀ n ∈ c.capacity, n < 2 ^ 63

section Fields

/-- The keys of a configuration need no marks. -/
lemma bareKey_fields (c : Config) : ∀ f ∈ c.fields, BareKey f.1 := by
  simp only [fields, List.forall_mem_cons]
  exact ⟨⟨by decide, List.all_eq_true.1 rfl⟩, ⟨by decide, List.all_eq_true.1 rfl⟩,
    ⟨by decide, List.all_eq_true.1 rfl⟩, nofun⟩

/-- The keys of a configuration are different. -/
lemma nodup_fields (c : Config) : (c.fields.map Prod.fst).Nodup :=
  (by decide : ["name", "track_on_modified", "max_tracked"].Nodup)

/-- The fields fit if the capacity does. -/
lemma fits_fields_iff : (∀ f ∈ c.fields, f.2.Fits) ↔ c.Writable := by
  obtain ⟨name, upkeep, capacity⟩ := c
  cases capacity with
  | none => simp [fields, Writable, Field.Fits]
  | some n =>
    simp only [fields, Writable, List.forall_mem_cons, Field.Fits, Option.mem_some_iff, forall_eq',
      true_and, largestInteger]
    exact ⟨fun fits => Nat.lt_succ_of_le fits.1, fun small => ⟨Nat.le_pred_of_lt small, nofun⟩⟩

/-- The fields that are set describe the configuration. -/
lemma ofDocument_entries (converts : decoder.Converts) (c : Config) :
    ofDocument decoder (Field.entries c.fields) = .ok c := by
  obtain ⟨name, upkeep, capacity⟩ := c
  have text := (converts.text _ name).2 rfl
  have truth := (converts.truth _ upkeep).2 rfl
  cases capacity with
  | none =>
    show (((decoder.text _).map _).bind fun c => ((decoder.truth _).map _).bind fun c => .ok c) = _
    rw [text, Except.map, Except.bind, truth]
    rfl
  | some n =>
    have count := (converts.count _ n).2 rfl
    show (((decoder.text _).map _).bind fun c => ((decoder.truth _).map _).bind fun c =>
      ((decoder.count _).map _).bind fun c => .ok c) = _
    rw [text, Except.map, Except.bind, truth, Except.map, Except.bind, count]
    rfl

end Fields

section Written

/-- A configuration that fits is written, and what is written is read back. -/
lemma decode_of_writable (converts : decoder.Converts) (reads : decoder.ReadsLines)
    (writes : encoder.WritesLines) (writable : c.Writable) :
    ∃ text, c.encode encoder = .ok text ∧ decode decoder text = .ok c := by
  obtain ⟨text, written, parsed⟩ := parse_render reads writes (bareKey_fields c) (nodup_fields c)
    (fits_fields_iff.2 writable)
  refine ⟨text, written, ?_⟩
  rw [decode, parsed]
  exact ofDocument_entries converts c

/-- A configuration that does not fit is refused. -/
lemma encode_of_large (writes : encoder.WritesLines) (large : ¬ c.Writable) :
    ∃ fault, c.encode encoder = .error fault := by
  cases written : c.encode encoder with
  | error fault => exact ⟨fault, rfl⟩
  | ok text =>
    have fits := ((writes.lines (bareKey_fields c) (nodup_fields c)).1 written).1
    exact absurd (fits_fields_iff.1 fits) large

end Written

section Found

/-- A configuration that can be written still can with an integer of 64 bits put in its place. -/
lemma Writable.put {e : String × Value} (writable : c.Writable) (fits : e.2.Fits) :
    (c.put e).Writable := by
  unfold Config.put
  split
  · exact writable
  split
  · exact writable
  split
  · cases count : e.2.count? with
    | none => exact writable
    | some n =>
      intro m mem
      obtain rfl := Option.some.inj mem
      rw [Value.count?_eq_some_iff.1 count] at fits
      have small := fits.2
      omega
  · exact writable

/-- So it can with all entries of a document whose integers have 64 bits. -/
lemma Writable.foldl_put {d : Document} (writable : c.Writable) (fits : ∀ e ∈ d, e.2.Fits) :
    (d.foldl Config.put c).Writable := by
  induction d generalizing c with
  | nil => exact writable
  | cons e d ih =>
    rw [List.forall_mem_cons] at fits
    exact ih (writable.put fits.1) fits.2

/-- The standard configuration has no capacity, so it can be written. -/
lemma writable_standard : standard.Writable := fun n mem =>
  absurd mem (Option.not_mem_none n)

/-- A configuration that is read can be written. -/
lemma writable_of_decode (converts : decoder.Converts) (reads : decoder.ReadsLines) {text : String}
    (found : decode decoder text = .ok c) : c.Writable := by
  rw [decode] at found
  cases parsed : decoder.parse text with
  | error fault =>
    rw [parsed] at found
    cases found
  | ok d =>
    rw [parsed] at found
    rw [eq_foldl_put converts found]
    exact writable_standard.foldl_put (reads.fits parsed)

end Found

/-- The written form of configurations goes there and back, by any reader and writer that keep the
rules: the writer quotes a text in the first of the four forms that suits it and refuses integers of
more than 64 bits, and the reader reads lines by the grammar, finds no such integers either, and
converts values to their own types. Whatever the name, a configuration whose capacity fits can be
written, and what is written is read as the same configuration; one whose capacity does not fit
cannot be written. No text is read as such a configuration, so all that can be read can be written
and read again. -/
theorem round_trip {ε δ : Type} (decoder : Decoder ε) (encoder : Encoder δ)
    (converts : decoder.Converts) (reads : decoder.ReadsLines) (writes : encoder.WritesLines) :
    (∀ c : Config, (∀ n ∈ c.capacity, n < 2 ^ 63) →
      ∃ text, c.encode encoder = .ok text ∧ decode decoder text = .ok c) ∧
    (∀ (c : Config) (n : Nat), c.capacity = some n → 2 ^ 63 ≤ n →
      ∃ fault, c.encode encoder = .error fault) ∧
    ∀ (text : String) (c : Config), decode decoder text = .ok c →
      (∀ n ∈ c.capacity, n < 2 ^ 63) ∧
        ∃ again, c.encode encoder = .ok again ∧ decode decoder again = .ok c := by
  refine ⟨fun c => decode_of_writable converts reads writes, fun c n capacity large => ?_,
    fun text c found => ?_⟩
  · exact encode_of_large writes fun writable => Nat.not_le_of_lt (writable n capacity) large
  · have writable := writable_of_decode converts reads found
    exact ⟨writable, decode_of_writable converts reads writes writable⟩

/-- A name that needs every kind of escape, and the capacities next to the bound, for the reader and
the writer that run. -/
theorem round_trip_awkward :
    let c : Config := ⟨"\x27\x27\x27\"\"\"\r\n\\\x01", false, some 9223372036854775807⟩
    let d : Config := ⟨"", true, some 9223372036854775808⟩
    Decoder.standard.Converts ∧ Decoder.standard.ReadsLines ∧ Encoder.standard.WritesLines ∧
      (∃ fault, d.encode .standard = .error fault) ∧
      ∃ text, c.encode .standard = .ok text ∧ read text = .ok c ∧
        ∃ again, c.encode .standard = .ok again ∧ read again = .ok c := by
  intro c d
  have converts := Decoder.converts_standard
  have reads := Decoder.readsLines_standard
  have writes := Encoder.writesLines_standard
  obtain ⟨there, refused, back⟩ := round_trip .standard .standard converts reads writes
  have fits : ∀ n ∈ c.capacity, n < 2 ^ 63 := by
    intro n mem
    obtain rfl := Option.some.inj mem
    decide
  obtain ⟨text, written, found⟩ := there c fits
  exact ⟨converts, reads, writes, refused d 9223372036854775808 rfl (by decide), text, written,
    found, (back text c found).2⟩

end Config

end ServiceWatch
