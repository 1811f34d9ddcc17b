import ServiceWatch.Proofs.Toml.Draft
import ServiceWatch.Toml.Codec

/-!
# Integers of a document

Numbers are read into 64 bits or not at all, so an integer at the top of a document `Fits`, whatever
text the document was read from (`fits_parse?`). A draft keeps this up (`Branch.upheld_fits`), as
the values at its top are those that were assigned there.
-/

namespace ServiceWatch.Toml

variable {cs r : List Char} {v : Value}

section Reading

/-- An integer is taken only if it fits. -/
lemma fits_integer? {n : Int} (read : integer? n = some v) : v.Fits := by
  rw [integer?] at read
  split at read
  · next fits =>
    cases read
    exact fits
  · cases read

/-- A float is no integer. -/
lemma fits_float? {x : Decimal.Binary64} (read : float? x = some v) : v.Fits := by
  rw [float?] at read
  split at read
  · cases read
  · cases read
    trivial

/-- What is read behind whole digits fits. -/
lemma fits_readDecimal {negative : Bool} {whole : List Char}
    (read : readDecimal negative whole cs = some (v, r)) : v.Fits := by
  unfold readDecimal at read
  split at read
  · simp only [Option.bind_eq_bind, Option.bind_eq_some_iff,
      Option.some.injEq, Prod.mk.injEq] at read
    obtain ⟨_, _, _, _, _, read, rfl, rfl⟩ := read
    exact fits_float? read
  · split at read
    · simp only [Option.bind_eq_bind, Option.bind_eq_some_iff,
        Option.some.injEq, Prod.mk.injEq] at read
      obtain ⟨_, _, _, read, rfl, rfl⟩ := read
      exact fits_float? read
    · simp only [Option.bind_eq_bind, Option.bind_eq_some_iff,
        Option.some.injEq, Prod.mk.injEq] at read
      obtain ⟨_, read, rfl, rfl⟩ := read
      exact fits_integer? read

/-- An integer in another base fits. -/
lemma fits_readBase {base : Nat} (read : readBase base cs = some (v, r)) : v.Fits := by
  simp only [readBase, Option.bind_eq_bind, Option.bind_eq_some_iff,
    Option.some.injEq, Prod.mk.injEq] at read
  obtain ⟨_, _, _, read, rfl, rfl⟩ := read
  exact fits_integer? read

/-- A float by name is no integer. -/
lemma fits_readSpecial {negative : Bool} (read : readSpecial negative cs = some (v, r)) :
    v.Fits := by
  unfold readSpecial at read
  split at read
  · cases read
    trivial
  · cases read
    trivial
  · cases read

/-- An integer that is read fits into 64 bits. -/
lemma fits_readNumber (read : readNumber cs = some (v, r)) : v.Fits := by
  unfold readNumber at read
  split at read
  · exact fits_readBase read
  · exact fits_readBase read
  · exact fits_readBase read
  · dsimp only at read
    split at read
    · exact fits_readDecimal read
    · exact fits_readSpecial read

/-- An integer that is read without parts fits into 64 bits. -/
lemma fits_readScalar (read : readScalar cs = some (v, r)) : v.Fits := by
  have quoted {o : Option (List Char × List Char)}
      (read : o.map (fun text => (Value.string (String.ofList text.1), text.2)) = some (v, r)) :
      v.Fits := by
    obtain ⟨_, _, h⟩ := Option.map_eq_some_iff.1 read
    cases h
    trivial
  unfold readScalar at read
  split at read
  · exact quoted read
  · exact quoted read
  · cases read
    trivial
  · cases read
    trivial
  · split at read
    · cases read
      trivial
    · exact fits_readNumber read

/-- An inline table is no integer. -/
lemma fits_readInline {read : Reader Value} (inline : readInline read cs = some (v, r)) :
    v.Fits := by
  unfold readInline at inline
  dsimp only at inline
  split at inline
  · cases inline
    trivial
  · simp only [tableOfPairs, Option.bind_eq_bind, Option.bind_eq_some_iff,
      Option.map_eq_some_iff, Option.some.injEq, Prod.mk.injEq] at inline
    obtain ⟨_, _, _, ⟨_, _, rfl⟩, rfl, _⟩ := inline
    trivial

/-- An integer that is read as a value fits into 64 bits. -/
lemma fits_readValue {depth : Nat} (read : readValue depth cs = some (v, r)) : v.Fits := by
  cases depth with
  | zero => exact fits_readScalar read
  | succ depth =>
    unfold readValue at read
    dsimp only at read
    split at read
    · obtain ⟨_, _, h⟩ := Option.map_eq_some_iff.1 read
      cases h
      trivial
    · exact fits_readInline read
    · exact fits_readScalar read

end Reading

section Drafts

/-- Not a value that does not fit. -/
def Tree.Fits : Tree → Prop
  | value v => v.Fits
  | _ => True

/-- No value at the top does not fit. -/
def Branch.Fits (b : Branch) : Prop := ∀ e ∈ b, e.2.Fits

/-- The values at the top of a draft keep fitting. -/
lemma Branch.upheld_fits : Branch.Upheld Tree.Fits Branch.Fits where
  table _ _ := trivial
  rows _ := trivial
  nil := nofun
  concat {b key t} fits _ new e mem := by
    rcases List.mem_append.1 mem with mem | mem
    · exact fits e mem
    · obtain rfl := List.mem_singleton.1 mem
      exact new
  replace {b key t} fits new e mem := by
    obtain ⟨e', old, rfl⟩ := List.mem_map.1 mem
    split
    · exact new
    · exact fits e' old
  drop _ fits e mem := fits e (List.mem_filter.1 mem).1

/-- Finishing trees leaves their values as they are. -/
lemma fits_toEntries {b : Branch} (fits : b.Fits) : ∀ e ∈ Tree.toEntries b, e.2.Fits := by
  induction b with
  | nil => exact nofun
  | cons e b ih =>
    obtain ⟨key, t⟩ := e
    rw [Branch.Fits, List.forall_mem_cons] at fits
    rw [Tree.toEntries, List.forall_mem_cons]
    refine ⟨?_, ih fits.2⟩
    cases t with
    | value v => exact fits.1
    | table => trivial
    | rows => trivial

end Drafts

section Texts

/-- A statement assigns only what fits. -/
lemma Statement.fits_read {s : Statement} (read : Statement.read cs = some (s, r)) :
    s.Good Tree.Fits := by
  unfold Statement.read at read
  split at read
  · simp only [Option.bind_eq_bind, Option.bind_eq_some_iff, Option.some.injEq,
      Prod.mk.injEq] at read
    obtain ⟨_, _, _, _, _, _, rfl, _⟩ := read
    trivial
  · simp only [Option.bind_eq_bind, Option.bind_eq_some_iff, Option.some.injEq,
      Prod.mk.injEq] at read
    obtain ⟨_, _, _, _, rfl, _⟩ := read
    trivial
  · simp only [readPair, Option.bind_eq_bind, Option.bind_eq_some_iff, Option.some.injEq,
      Prod.mk.injEq] at read
    obtain ⟨_, ⟨_, _, _, _, ⟨v, _⟩, value, rfl⟩, rfl, _⟩ := read
    exact fits_readValue value

/-- All statements of a text assign only what fits. -/
lemma Statement.fits_readAll {count : Nat} {ss : List Statement}
    (read : Statement.readAll count cs = some ss) : ∀ s ∈ ss, s.Good Tree.Fits := by
  induction count generalizing cs ss with
  | zero => cases read
  | succ count ih =>
    unfold Statement.readAll at read
    split at read
    · cases read
      exact nofun
    · split at read
      · obtain ⟨_, _, rest⟩ := Option.bind_eq_some_iff.1 read
        exact ih rest
      · simp only [Option.bind_eq_bind, Option.bind_eq_some_iff, Option.some.injEq] at read
        obtain ⟨_, first, _, _, _, rest, rfl⟩ := read
        exact List.forall_mem_cons.2 ⟨Statement.fits_read first, ih rest⟩

/-- An integer at the top of a document that is read fits into 64 bits. -/
theorem fits_parse? {text : String} {d : Document} (parsed : Document.parse? text = some d) :
    ∀ e ∈ d, e.2.Fits := by
  obtain ⟨ss, read, parsed⟩ := Option.bind_eq_some_iff.1 parsed
  obtain ⟨b, rfl, fits⟩ :=
    Branch.upheld_fits.ofStatements parsed (Statement.fits_readAll read)
  exact fits_toEntries fits

end Texts

end ServiceWatch.Toml
