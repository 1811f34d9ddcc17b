import ServiceWatch.Proofs.Toml.Value
import ServiceWatch.Toml.Document

/-!
# Lines that set keys

The simplest documents have nothing but lines that each set a top-level key. The text of such lines,
if their keys are different, is read as the document of what they set (`parse?_text`).
-/

namespace ServiceWatch.Toml

/-- What a line says. -/
def Line.statement (l : Line) : Statement := .assign [l.key] l.value

section Statements

variable {cs r : List Char}

/-- A text that begins with no space has none to skip. -/
lemma skipSpaces_of_head? (tight : ∀ c ∈ cs.head?, isSpace c = false) : skipSpaces cs = cs := by
  cases cs with
  | nil => rfl
  | cons c cs => exact List.dropWhile_cons_of_neg (by simp [tight c rfl])

/-- No space stands before a bare key. -/
lemma skipSpaces_bare {c : Char} (bare : isBare c = true) : skipSpaces (c :: r) = c :: r := by
  refine skipSpaces_of_head? fun d mem => ?_
  obtain rfl := Option.some.inj mem
  exact not_space_of_holds bare rfl rfl

/-- A bare key up to a space is read as one part. -/
lemma readPart_bare (named : cs ≠ []) (bare : ∀ c ∈ cs, isBare c = true) (r : List Char) :
    readPart (cs ++ ' ' :: r) = some (String.ofList cs, ' ' :: r) := by
  have line : Quote.readLine (cs ++ ' ' :: r) = none := by
    cases cs with
    | nil => exact absurd rfl named
    | cons c cs =>
      have first := bare c List.mem_cons_self
      rw [List.cons_append, Quote.readLine]
      · exact fun _ h => ne_of_holds first rfl (List.cons.inj h).1
      · exact fun _ h => ne_of_holds first rfl (List.cons.inj h).1
  have part : (cs ++ ' ' :: r).takeWhile isBare = cs := by
    rw [List.takeWhile_append_of_pos bare, List.takeWhile_cons_of_neg (by decide), List.append_nil]
  have rest : (cs ++ ' ' :: r).dropWhile isBare = ' ' :: r := by
    rw [List.dropWhile_append_of_pos bare, List.dropWhile_cons_of_neg (by decide)]
  rw [readPart, line, part, rest]
  cases cs with
  | nil => exact absurd rfl named
  | cons c cs => rfl

variable (l : Line) (r : List Char)

/-- A line begins with a character of its key. -/
lemma Line.exists_first : ∃ c cs, isBare c = true ∧ l.key.toList ++ r = c :: cs := by
  obtain ⟨c, cs, key⟩ := List.exists_cons_of_ne_nil l.bare.named
  refine ⟨c, cs ++ r, l.bare.bare c ?_, ?_⟩
  · rw [key]
    exact List.mem_cons_self
  · rw [key, List.cons_append]

/-- A line and what follows it, with the value set apart. -/
lemma Line.text_append :
    l.text ++ r = l.key.toList ++ ' ' :: '=' :: ' ' :: (l.written ++ '\n' :: r) := by
  simp [Line.text, entryLine]

/-- The key of a line is read as its only part. -/
lemma readKey_line : readKey (l.key.toList ++ ' ' :: '=' :: r) = some ([l.key], '=' :: r) := by
  have spaces : skipSpaces (l.key.toList ++ ' ' :: '=' :: r) = l.key.toList ++ ' ' :: '=' :: r := by
    obtain ⟨c, cs, bare, first⟩ := l.exists_first (' ' :: '=' :: r)
    rw [first, skipSpaces_bare bare]
  show readParts (78 + 1) _ = _
  rw [readParts, spaces, readPart_bare l.bare.named l.bare.bare, String.ofList_toList]
  rfl

/-- A line is read as what it says, up to its end. -/
lemma read_line : Statement.read (l.text ++ r) = some (l.statement, '\n' :: r) := by
  have value : skipSpaces (' ' :: (l.written ++ '\n' :: r)) = l.written ++ '\n' :: r := by
    refine skipSpaces_of_head? fun c (mem : c ∈ (l.written ++ '\n' :: r).head?) => ?_
    rw [List.head?_append] at mem
    cases first : l.written.head? with
    | none =>
      rw [first] at mem
      obtain rfl := Option.some.inj mem
      rfl
    | some d =>
      rw [first] at mem
      obtain rfl := Option.some.inj mem
      exact l.spelled.tight d first
  have pair : readPair (readValue nestingLimit) (l.text ++ r) =
      some (([l.key], l.value), '\n' :: r) := by
    rw [readPair, l.text_append, readKey_line]
    show ((readValue nestingLimit (skipSpaces (' ' :: (l.written ++ '\n' :: r)))).bind fun p =>
      some (([l.key], p.1), p.2)) = _
    rw [value, readValue_spelled nestingLimit l.spelled]
    rfl
  have assigned {r' : List Char} : l.text ++ r ≠ '[' :: r' := by
    obtain ⟨c, cs, bare, first⟩ := l.exists_first (' ' :: '=' :: ' ' :: (l.written ++ '\n' :: r))
    rw [l.text_append, first]
    exact fun h => ne_of_holds bare rfl (List.cons.inj h).1
  rw [Statement.read, pair]
  · rfl
  · exact fun _ => assigned
  · exact fun _ => assigned

/-- Lines are read as what they say, one by one. -/
lemma readAll_text {ls : List Line} {count : Nat} (enough : ls.length < count) :
    Statement.readAll count (ls.flatMap Line.text) = some (ls.map Line.statement) := by
  induction ls generalizing count with
  | nil =>
    obtain ⟨count, rfl⟩ := Nat.exists_eq_add_of_lt enough
    rfl
  | cons l ls ih =>
    obtain ⟨count, rfl⟩ : ∃ k, count = k + 1 := ⟨count - 1, by omega⟩
    have rest := ih (Nat.lt_of_succ_lt_succ enough)
    have read := read_line l (ls.flatMap Line.text)
    obtain ⟨c, cs, bare, first⟩ := l.exists_first _
    have spoken : ¬ (c = '#' ∨ c = '\n' ∨ c = '\r') := by
      rintro (rfl | rfl | rfl) <;> cases bare
    rw [l.text_append, first] at read
    rw [List.flatMap_cons, l.text_append, first, Statement.readAll, skipSpaces_bare bare]
    dsimp only
    rw [if_neg spoken, read]
    show ((Statement.readAll count (ls.flatMap Line.text)).bind fun ss =>
      some (l.statement :: ss)) = _
    rw [rest]
    rfl

end Statements

section Documents

/-- What a line leaves in the table at the top. -/
def Line.branch (l : Line) : String × Tree := (l.key, .value l.value)

/-- A line with a new key adds its entry at the top. -/
lemma take_statement (l : Line) {b : Branch} (new : b.lookup l.key = none) :
    Draft.take ⟨[], .top, b⟩ l.statement = some ⟨[], .top, b ++ [l.branch]⟩ := by
  have assigned : b.assign [l.key] l.value = some (b ++ [l.branch]) := by
    show (Branch.define b [] l.key l.value) = _
    rw [Branch.define, Branch.alter, if_neg (by simp), new]
    rfl
  rw [Line.statement, Draft.take, assigned]
  rfl

/-- Lines with new and different keys add their entries at the top, in their order. -/
lemma foldlM_statement {ls : List Line} {b : Branch} (distinct : (ls.map Line.key).Nodup)
    (new : ∀ l ∈ ls, b.lookup l.key = none) :
    (ls.map Line.statement).foldlM Draft.take ⟨[], .top, b⟩ =
      some ⟨[], .top, b ++ ls.map Line.branch⟩ := by
  induction ls generalizing b with
  | nil =>
    rw [List.map_nil, List.map_nil, List.append_nil]
    rfl
  | cons l ls ih =>
    rw [List.map_cons, List.nodup_cons] at distinct
    rw [List.forall_mem_cons] at new
    -- The keys that follow are still free with this one taken.
    have later : ∀ l' ∈ ls, (b ++ [l.branch]).lookup l'.key = none := by
      intro l' mem
      have other : l'.key ≠ l.key := fun h => distinct.1 (h ▸ List.mem_map_of_mem mem)
      rw [List.lookup_append, new.2 l' mem, Line.branch, List.lookup_cons,
        beq_false_of_ne other]
      rfl
    rw [List.map_cons, List.foldlM_cons, take_statement l new.1]
    refine (ih distinct.2 later).trans ?_
    rw [List.append_assoc]
    rfl

/-- What lines leave at the top stands for what they set. -/
lemma toEntries_branch (ls : List Line) :
    Tree.toEntries (ls.map Line.branch) = ls.map Line.entry := by
  induction ls with
  | nil => rfl
  | cons l ls ih =>
    rw [List.map_cons, List.map_cons, ← ih]
    rfl

/-- No text has more lines than characters. -/
lemma length_le_text (ls : List Line) : ls.length ≤ (ls.flatMap Line.text).length := by
  induction ls with
  | nil => exact Nat.le_refl 0
  | cons l ls ih =>
    simp only [List.flatMap_cons, List.length_append, List.length_cons, Line.text, entryLine]
    omega

/-- No byte order mark stands before lines. -/
lemma withoutMark_text (ls : List Line) :
    withoutMark (ls.flatMap Line.text) = ls.flatMap Line.text := by
  cases ls with
  | nil => rfl
  | cons l ls =>
    obtain ⟨c, cs, bare, first⟩ := l.exists_first _
    rw [List.flatMap_cons, l.text_append, first, withoutMark]
    exact fun _ h => ne_of_holds bare rfl (List.cons.inj h).1

/-- Lines with different keys are read as the document of what they set, in their order. -/
theorem parse?_text {ls : List Line} (distinct : (ls.map Line.key).Nodup) :
    Document.parse? (String.ofList (ls.flatMap Line.text)) = some (ls.map Line.entry) := by
  have read : Statement.ofText (String.ofList (ls.flatMap Line.text)) =
      some (ls.map Line.statement) := by
    rw [Statement.ofText, String.toList_ofList, String.length_ofList, withoutMark_text]
    exact readAll_text (Nat.lt_succ_of_le (length_le_text ls))
  have taken := foldlM_statement (b := []) distinct fun _ _ => rfl
  rw [List.nil_append] at taken
  rw [Document.parse?, read]
  show Document.ofStatements? _ = _
  rw [Document.ofStatements?, Draft.empty, taken]
  show some (Tree.toEntries (ls.map Line.branch)) = _
  rw [toEntries_branch]

end Documents

end ServiceWatch.Toml
