import Mathlib.Tactic.Lemma
import ServiceWatch.Toml.Spelling

/-!
# Quoted texts, written and read

Two halves that meet in the grammar. A text that is written in any form that can hold it is `Quoted`
(`quoted_write`), and the form that is picked for a text can hold it (`holds_best`). What is
`Quoted` is read as the text it stands for (`read_quoted`). The readers take it piece by piece. Over
several lines marks may stand unescaped, up to two in a row, and whether such a run belongs to the
text or closes it is known only behind it. So the induction there leaves a run of marks in front
unread until something else follows.
-/

namespace ServiceWatch.Toml

/-- Characters of which one has a property and the other has not are different. -/
lemma ne_of_holds {p : Char → Bool} {c d : Char} (holds : p c = true) (fails : p d = false) :
    c ≠ d := by
  rintro rfl
  rw [holds] at fails
  cases fails

namespace Quote

variable {c : Char} {cs w r : List Char} {run : Nat}

section Characters

/-- Any character but control characters is plain. -/
lemma plain_of_not_control (free : isControl c = false) : isPlain c = true := by
  rw [isPlain, free, Bool.not_false, Bool.or_true]

/-- A hexadecimal digit is read as its value. -/
lemma hexValue?_hexDigit (n : Fin 16) : hexValue? (hexDigit n) = some n.val := by
  revert n
  decide

/-- A character is the one with its number. -/
lemma scalar?_toNat (c : Char) : scalar? c.toNat = some c := dif_pos c.valid

/-- Four digits, of which the last two tell the number of a character, stand for it. -/
lemma hexScalar?_hexDigit (small : c.toNat < 256) :
    hexScalar? ['0', '0', hexDigit (c.toNat / 16), hexDigit (c.toNat % 16)] = some c := by
  have high := hexValue?_hexDigit ⟨c.toNat / 16, by omega⟩
  have low := hexValue?_hexDigit ⟨c.toNat % 16, by omega⟩
  have number : hexNumber? ['0', '0', hexDigit (c.toNat / 16), hexDigit (c.toNat % 16)]
      = some (16 * (16 * (16 * (16 * 0 + 0) + 0) + c.toNat / 16) + c.toNat % 16) := by
    simp only [hexNumber?, List.foldl, Option.bind_some, Option.map_some, high, low]
    rfl
  have joined : 16 * (16 * (16 * (16 * 0 + 0) + 0) + c.toNat / 16) + c.toNat % 16 = c.toNat := by
    omega
  rw [hexScalar?, number, joined, Option.bind_some]
  exact scalar?_toNat c

/-- Control characters have small numbers. -/
lemma toNat_lt_of_control (control : isControl c = true) : c.toNat < 256 := by
  rw [isControl, Bool.or_eq_true, decide_eq_true_eq, decide_eq_true_eq] at control
  omega

/-- No line ends before a plain character. -/
lemma newline?_of_plain (plain : isPlain c = true) : newline? (c :: r) = none := by
  unfold newline?
  split
  · next h => exact absurd (List.cons.inj h).1 (ne_of_holds plain rfl)
  · next h => exact absurd (List.cons.inj h).1 (ne_of_holds plain rfl)
  · rfl

end Characters

section Writing

/-- What is written for a character other than the mark stands for it. -/
lemma escaped_escape (mark : c ≠ '"') : Escaped c (escape c) := by
  unfold escape
  split
  · exact .letter rfl
  · exact .letter rfl
  · exact .letter rfl
  · exact .letter rfl
  · exact .letter rfl
  · exact .letter rfl
  · next slash =>
    cases control : isControl c with
    | true => exact .short (hexScalar?_hexDigit (toNat_lt_of_control control))
    | false => exact .plain (plain_of_not_control control) mark slash

/-- What is written for a character on one line stands for it, whatever it is. -/
lemma escaped_marked (c : Char) : Escaped c (if c = '"' then ['\\', '"'] else escape c) := by
  split
  · next mark =>
    subst mark
    exact .letter rfl
  · next mark => exact escaped_escape mark

/-- The inside of a basic text on one line stands for the text. -/
lemma oneLine_basicBody (cs : List Char) : OneLine Escaped (basicBody cs) cs := by
  induction cs with
  | nil => exact .nil
  | cons c cs ih => exact .cons (escaped_marked c) ih

/-- A plain text without the mark stands for itself on one line. -/
lemma oneLine_self (plain : ∀ c ∈ cs, isPlain c = true) (unmarked : '\'' ∉ cs) :
    OneLine Verbatim cs cs := by
  induction cs with
  | nil => exact .nil
  | cons c cs ih =>
    rw [List.forall_mem_cons] at plain
    rw [List.mem_cons, not_or] at unmarked
    exact .cons (v := [c]) (.plain plain.1 (unmarked.1 ∘ Eq.symm)) (ih plain.2 unmarked.2)

/-- The inside of a basic text over several lines stands for the text. -/
lemma manyLines_basicLinesBody (run : Nat) (cs : List Char) :
    ManyLines Escaped '"' run (basicLinesBody run cs) cs := by
  induction cs generalizing run with
  | nil => exact .nil
  | cons c cs ih =>
    rw [basicLinesBody]
    by_cases mark : c = '"'
    · subst mark
      rw [if_pos rfl]
      split
      · next room => exact .mark room (ih (run + 1))
      · exact .piece (.letter rfl : Escaped '"' ['\\', '"']) (ih 0)
    · rw [if_neg mark]
      split
      · next feed =>
        subst feed
        exact .feed (ih 0)
      · exact .piece (escaped_escape mark) (ih 0)

/-- A run only gets longer. -/
lemma le_longestRun (mark : Char) (run : Nat) (cs : List Char) : run ≤ longestRun mark run cs := by
  induction cs generalizing run with
  | nil => exact Nat.le_refl run
  | cons c cs ih =>
    rw [longestRun]
    split
    · exact Nat.le_of_succ_le (ih (run + 1))
    · exact Nat.le_max_left ..

/-- A text of plain characters and line feeds without three marks in a row stands for itself. -/
lemma manyLines_self (plain : ∀ c ∈ cs, isPlain c = true ∨ c = '\n')
    (few : longestRun '\'' run cs ≤ 2) : ManyLines Verbatim '\'' run cs cs := by
  induction cs generalizing run with
  | nil => exact .nil
  | cons c cs ih =>
    rw [List.forall_mem_cons] at plain
    rw [longestRun] at few
    by_cases mark : c = '\''
    · subst mark
      rw [if_pos rfl] at few
      have room : run < 2 := Nat.le_trans (le_longestRun _ (run + 1) cs) few
      exact .mark room (ih plain.2 few)
    · rw [if_neg mark] at few
      have rest := ih plain.2 (Nat.max_le.1 few).2
      rcases plain.1 with plain | rfl
      · exact .piece (v := [c]) (.plain plain mark) rest
      · exact .feed rest

/-- No line ends before what stands for a character. -/
lemma Escaped.newline? (written : Escaped c w) (r : List Char) : newline? (w ++ r) = none := by
  cases written with
  | plain plain _ _ => exact newline?_of_plain plain
  | letter => rfl
  | short => rfl
  | long => rfl

/-- No line ends at the beginning of a written text that has no line feeds. -/
lemma newline?_basicLinesBody (lines : '\n' ∉ cs) : newline? (basicLinesBody 0 cs) = none := by
  cases cs with
  | nil => rfl
  | cons c cs =>
    have other : c ≠ '\n' := (List.ne_of_not_mem_cons lines).symm
    rw [basicLinesBody, if_neg other]
    by_cases mark : c = '"'
    · rw [if_pos mark]
      rfl
    · rw [if_neg mark]
      exact (escaped_escape mark).newline? _

/-- No line ends at the beginning of a text that has no line feeds and is plain otherwise. -/
lemma newline?_of_plain_or_feed (plain : ∀ c ∈ cs, isPlain c = true ∨ c = '\n')
    (lines : '\n' ∉ cs) : newline? cs = none := by
  cases cs with
  | nil => rfl
  | cons c cs =>
    have other : c ≠ '\n' := (List.ne_of_not_mem_cons lines).symm
    exact newline?_of_plain ((plain c List.mem_cons_self).resolve_right other)

/-- A line end is put behind opening marks where it is needed. -/
lemma opened_opening (first : '\n' ∉ cs → newline? w = none) : Opened w (opening cs ++ w) := by
  rw [opening]
  split
  · exact .feed
  · next h => exact .directly (first (by simpa using h))

/-- Whether a form can hold a text; basic forms can hold any, since they have escapes. -/
def Form.Holds : Form → List Char → Prop
  | basic, _ => True
  | literal, cs => (∀ c ∈ cs, isPlain c = true) ∧ '\'' ∉ cs
  | basicLines, _ => True
  | literalLines, cs =>
    (∀ c ∈ cs, isPlain c = true ∨ c = '\n') ∧ longestRun '\'' 0 cs ≤ 2

/-- A text without control characters has plain characters and line feeds. -/
lemma plain_or_feed (free : hasControl cs = false) : ∀ c ∈ cs, isPlain c = true ∨ c = '\n' := by
  intro c mem
  have allowed := List.any_eq_false.1 free c mem
  cases control : isControl c with
  | false => exact .inl (plain_of_not_control control)
  | true =>
    rw [control] at allowed
    by_cases tab : c = '\t'
    · subst tab
      exact .inl rfl
    · exact .inr (by simpa [tab] using allowed)

/-- Where the longest run of a character has no length, the character is not there. -/
lemma not_mem_of_longestRun {mark : Char} (none : longestRun mark 0 cs = 0) : mark ∉ cs := by
  induction cs with
  | nil => exact List.not_mem_nil
  | cons c cs ih =>
    rw [longestRun] at none
    split at none
    · have positive := le_longestRun mark (0 + 1) cs
      omega
    · next other =>
      have rest := ih (Nat.max_eq_zero_iff.1 none).2
      exact List.not_mem_cons_of_ne_of_not_mem (Ne.symm other) rest

/-- The form that is picked for a text can hold it. -/
theorem holds_best (cs : List Char) : (best cs).Holds cs := by
  unfold best
  dsimp only
  split
  · trivial
  split
  · next literal =>
    simp only [Bool.and_eq_true, Bool.not_eq_true', decide_eq_true_eq] at literal
    obtain ⟨⟨control, apostrophes⟩, lines⟩ := literal
    refine ⟨fun c mem => ?_, not_mem_of_longestRun apostrophes⟩
    refine (plain_or_feed control c mem).resolve_right ?_
    rintro rfl
    rw [List.contains_iff_mem.2 mem] at lines
    cases lines
  split
  · trivial
  split
  · next literal =>
    simp only [Bool.and_eq_true, Bool.not_eq_true', decide_eq_true_eq] at literal
    exact ⟨plain_or_feed literal.1, literal.2⟩
  split
  · trivial
  · trivial

/-- What is written in a form that can hold it stands for the text. -/
theorem quoted_write {form : Form} (holds : form.Holds cs) : Quoted (write form cs) cs := by
  cases form with
  | basic => exact .basic (oneLine_basicBody cs)
  | literal => exact .literal (oneLine_self holds.1 holds.2)
  | basicLines =>
    exact .basicLines (opened_opening newline?_basicLinesBody) (manyLines_basicLinesBody 0 cs)
  | literalLines =>
    obtain ⟨plain, few⟩ := holds
    have opened := opened_opening (newline?_of_plain_or_feed plain)
    exact .literalLines opened (manyLines_self plain few)

/-- What is written in the form that suits a text stands for the text. -/
theorem quoted_writeBest (cs : List Char) : Quoted (writeBest cs) cs :=
  quoted_write (holds_best cs)

end Writing

section Reading

variable {Piece : Char → List Char → Prop} {mark : Char} {v : List Char}
  {reader : List Char → Option (List Char × List Char)}

/-- A reader takes what stands for a character as a whole, and takes none of it for a mark. -/
structure Takes (reader : List Char → Option (List Char × List Char))
    (Piece : Char → List Char → Prop) (mark : Char) : Prop where
  piece : ∀ {c w}, Piece c w → ∀ r, reader (w ++ r) = before c (reader r)
  unmarked : ∀ {c w}, Piece c w → ∀ r, (w ++ r).head? ≠ some mark

/-- A reader of texts on one line: the first mark closes. -/
structure TakesLine (reader : List Char → Option (List Char × List Char))
    (Piece : Char → List Char → Prop) (mark : Char) : Prop extends Takes reader Piece mark where
  close : ∀ r, reader (mark :: r) = some ([], r)

/-- A reader of texts over several lines: three marks close, with up to two more behind them. -/
structure TakesLines (reader : List Char → Option (List Char × List Char))
    (Piece : Char → List Char → Prop) (mark : Char) : Prop extends Takes reader Piece mark where
  close : ∀ r, reader (mark :: mark :: mark :: r) = some (spareMarks mark r)
  own : ∀ {r}, (∀ r', r ≠ mark :: mark :: r') → reader (mark :: r) = before mark (reader r)
  feed : ∀ r, reader ('\n' :: r) = before '\n' (reader r)
  returnFeed : ∀ r, reader ('\r' :: '\n' :: r) = before '\n' (reader r)
  ends : mark ≠ '\n' ∧ mark ≠ '\r'

/-- What stands for a character between basic marks does not begin with the mark. -/
lemma Escaped.unmarked (written : Escaped c w) (r : List Char) : (w ++ r).head? ≠ some '"' := by
  cases written with
  | plain _ mark _ => exact mark ∘ Option.some.inj
  | letter => exact nofun
  | short => exact nofun
  | long => exact nofun

/-- Nor does what stands for one between literal marks. -/
lemma Verbatim.unmarked (written : Verbatim c w) (r : List Char) : (w ++ r).head? ≠ some '\'' := by
  cases written with
  | plain _ mark => exact mark ∘ Option.some.inj

/-- The reader of basic texts on one line. -/
lemma takesLine_basic : TakesLine basic Escaped '"' where
  unmarked := Escaped.unmarked
  close r := by rw [basic]
  piece {c w} written r := by
    cases written with
    | plain plain mark slash =>
      rw [List.singleton_append, basic]
      · simp [plain, slash]
      · exact mark
      · exact fun _ _ _ _ _ h => absurd h slash
      · exact fun _ _ _ _ _ _ _ _ _ h => absurd h slash
      · exact fun _ _ h => absurd h slash
    | @letter l stands =>
      show basic ('\\' :: l :: r) = _
      rw [basic, stands]
      · rintro _ _ _ _ _ rfl
        cases stands
      · rintro _ _ _ _ _ _ _ _ _ rfl
        cases stands
    | short stands =>
      show basic ('\\' :: 'u' :: _ :: _ :: _ :: _ :: r) = _
      rw [basic, stands]
    | long stands =>
      show basic ('\\' :: 'U' :: _ :: _ :: _ :: _ :: _ :: _ :: _ :: _ :: r) = _
      rw [basic, stands]

/-- The reader of literal texts on one line. -/
lemma takesLine_literal : TakesLine literal Verbatim '\'' where
  unmarked := Verbatim.unmarked
  close r := by rw [literal]
  piece {c w} written r := by
    cases written with
    | plain plain mark =>
      rw [List.singleton_append, literal, if_pos plain]
      exact mark

/-- Over several lines a character that is plain is taken as it is, even a mark if it does not
close. -/
lemma basicLines_plain (plain : isPlain c = true) (slash : c ≠ '\\')
    (opened : c = '"' → ∀ r', r ≠ '"' :: '"' :: r') :
    basicLines false (c :: r) = before c (basicLines false r) := by
  rw [basicLines]
  · simp [plain, slash]
  · exact fun r' mark => opened mark r'
  · exact fun h => absurd h (ne_of_holds plain rfl)
  · exact fun _ h => absurd h (ne_of_holds plain rfl)
  · exact fun _ _ _ _ _ h => absurd h slash
  · exact fun _ _ _ _ _ _ _ _ _ h => absurd h slash
  · exact fun _ _ h => absurd h slash

/-- The reader of basic texts over several lines. -/
lemma takesLines_basicLines : TakesLines (basicLines false) Escaped '"' where
  unmarked := Escaped.unmarked
  close r := by rw [basicLines]
  own opened := basicLines_plain (c := '"') rfl (by decide) fun _ => opened
  feed r := by rw [basicLines, if_neg Bool.false_ne_true]
  returnFeed r := by rw [basicLines, if_neg Bool.false_ne_true]
  ends := by decide
  piece {c w} written r := by
    cases written with
    | plain plain mark slash => exact basicLines_plain plain slash fun h => absurd h mark
    | @letter l stands =>
      show basicLines false ('\\' :: l :: r) = _
      rw [basicLines, stands]
      · rintro _ _ _ _ _ rfl
        cases stands
      · rintro _ _ _ _ _ _ _ _ _ rfl
        cases stands
    | short stands =>
      show basicLines false ('\\' :: 'u' :: _ :: _ :: _ :: _ :: r) = _
      rw [basicLines, stands]
    | long stands =>
      show basicLines false ('\\' :: 'U' :: _ :: _ :: _ :: _ :: _ :: _ :: _ :: _ :: r) = _
      rw [basicLines, stands]

/-- Literal texts take plain characters in the same way. -/
lemma literalLines_plain (plain : isPlain c = true)
    (opened : c = '\'' → ∀ r', r ≠ '\'' :: '\'' :: r') :
    literalLines (c :: r) = before c (literalLines r) := by
  rw [literalLines, if_pos plain]
  · exact fun r' mark => opened mark r'
  · exact fun h => absurd h (ne_of_holds plain rfl)
  · exact fun _ h => absurd h (ne_of_holds plain rfl)

/-- The reader of literal texts over several lines. -/
lemma takesLines_literalLines : TakesLines literalLines Verbatim '\'' where
  unmarked := Verbatim.unmarked
  close r := by rw [literalLines]
  own opened := literalLines_plain rfl fun _ => opened
  feed r := by rw [literalLines]
  returnFeed r := by rw [literalLines]
  ends := by decide
  piece {c w} written r := by
    cases written with
    | plain plain mark => exact literalLines_plain plain fun h => absurd h mark

/-- What stands for a text on one line is read to its closing mark. -/
lemma TakesLine.read (takes : TakesLine reader Piece mark) (inside : OneLine Piece w cs)
    (r : List Char) : reader (w ++ mark :: r) = some (cs, r) := by
  induction inside with
  | nil => exact takes.close r
  | cons piece _ ih => rw [List.append_assoc, takes.piece piece, ih, before]

/-- A text on one line does not look like the beginning of one over several. -/
lemma Takes.append_ne (takes : Takes reader Piece mark) (inside : OneLine Piece w cs)
    (apart : r.head? ≠ some mark) (r' : List Char) : w ++ mark :: r ≠ mark :: mark :: r' := by
  intro h
  cases inside with
  | nil => exact apart (congrArg List.head? (List.cons.inj h).2)
  | cons piece _ =>
    rw [List.append_assoc] at h
    exact takes.unmarked piece _ (congrArg List.head? h)

/-- Up to two marks that close a text belong to it. -/
lemma spareMarks_replicate (few : run ≤ 2) (apart : r.head? ≠ some mark) :
    spareMarks mark (List.replicate run mark ++ r) = (List.replicate run mark, r) := by
  match run, r with
  | 0, [] => rfl
  | 0, [a] => simp_all [spareMarks]
  | 0, a :: b :: r => simp_all [spareMarks]
  | 1, [] => simp [spareMarks]
  | 1, a :: r => simp_all [spareMarks]
  | 2, r => simp [spareMarks, List.replicate]

/-- Behind a mark, fewer than two marks and something else do not make three in a row. -/
lemma replicate_append_ne (few : run < 2) (apart : r.head? ≠ some mark) (r' : List Char) :
    List.replicate run mark ++ r ≠ mark :: mark :: r' := by
  rintro h
  match run with
  | 0 => exact apart (congrArg List.head? h)
  | 1 => exact apart (congrArg List.head? (List.cons.inj h).2)

/-- A run before three marks is the same as the run behind them. -/
lemma replicate_append_marks (run : Nat) (mark : Char) (r : List Char) :
    List.replicate run mark ++ mark :: mark :: mark :: r =
      mark :: mark :: mark :: (List.replicate run mark ++ r) := by
  show List.replicate run mark ++ (List.replicate 3 mark ++ r) =
    List.replicate 3 mark ++ (List.replicate run mark ++ r)
  rw [← List.append_assoc, ← List.append_assoc, List.replicate_append_replicate,
    List.replicate_append_replicate, Nat.add_comm]

/-- Marks that are too few to close a text belong to it, once something else than a mark follows. -/
lemma TakesLines.replicate (takes : TakesLines reader Piece mark) {r' : List Char} (few : run ≤ 2)
    (apart : r.head? ≠ some mark) (rest : reader r = some (cs, r')) :
    reader (List.replicate run mark ++ r) = some (List.replicate run mark ++ cs, r') := by
  induction run with
  | zero => exact rest
  | succ run ih =>
    rw [List.replicate_succ, List.cons_append, takes.own (replicate_append_ne (by omega) apart),
      ih (by omega), before, List.cons_append]

/-- Up to two marks, and what stands for a text behind them, are read to the closing marks. -/
lemma TakesLines.read (takes : TakesLines reader Piece mark) (few : run ≤ 2)
    (apart : r.head? ≠ some mark) (inside : ManyLines Piece mark run w cs) :
    reader (List.replicate run mark ++ (w ++ mark :: mark :: mark :: r)) =
      some (List.replicate run mark ++ cs, r) := by
  induction inside with
  | @nil run =>
    -- The reader closes at the first three marks; the run is then behind them.
    rw [List.nil_append, replicate_append_marks, takes.close, spareMarks_replicate few apart,
      List.append_nil]
  | @mark run w cs room _ ih =>
    -- One more mark joins the run in front.
    have longer := ih room
    rw [List.replicate_succ', List.append_assoc, List.append_assoc] at longer
    exact longer
  | feed _ ih =>
    refine takes.replicate few (takes.ends.1.symm ∘ Option.some.inj) ?_
    rw [List.cons_append, takes.feed]
    exact congrArg (before '\n') (ih (Nat.zero_le 2))
  | returnFeed _ ih =>
    refine takes.replicate few (takes.ends.2.symm ∘ Option.some.inj) ?_
    rw [List.cons_append, List.cons_append, takes.returnFeed]
    exact congrArg (before '\n') (ih (Nat.zero_le 2))
  | @piece run c v w cs piece _ ih =>
    rw [List.append_assoc]
    refine takes.replicate few (takes.unmarked piece _) ?_
    rw [takes.piece piece]
    exact congrArg (before c) (ih (Nat.zero_le 2))

/-- A text in which no line ends at the beginning goes on so before a plain character. -/
lemma newline?_append (inside : newline? w = none) (plain : isPlain c = true) (r : List Char) :
    newline? (w ++ c :: r) = none := by
  match w with
  | [] => exact newline?_of_plain plain
  | [d] =>
    -- A carriage return would need a line feed behind it, and that is not plain.
    unfold newline? at inside ⊢
    split
    · next h =>
      obtain ⟨rfl, -⟩ := List.cons.inj h
      cases inside
    · next h => exact absurd (List.cons.inj (List.cons.inj h).2).1 (ne_of_holds plain rfl)
    · rfl
  | d :: e :: w =>
    rw [List.cons_append, List.cons_append]
    unfold newline? at inside ⊢
    split at inside <;> simp_all

/-- Behind opening marks the first line end is dropped. -/
lemma Opened.skipNewline (opened : Opened w v) (plain : isPlain c = true) (r : List Char) :
    skipNewline (v ++ c :: r) = w ++ c :: r := by
  cases opened with
  | directly inside => rw [Toml.skipNewline, newline?_append inside plain, Option.getD_none]
  | feed => rfl
  | returnFeed => rfl

/-- What stands for a text is read as the text, up to the end of the line. -/
theorem read_quoted (quoted : Quoted w cs) (r : List Char) :
    Quote.read (w ++ '\n' :: r) = some (cs, '\n' :: r) := by
  have apart {mark : Char} (other : mark ≠ '\n') : ('\n' :: r).head? ≠ some mark :=
    other.symm ∘ Option.some.inj
  cases quoted with
  | @basic w cs inside =>
    rw [List.cons_append, List.append_assoc, List.singleton_append, Quote.read]
    · exact takesLine_basic.read inside _
    · exact fun r' h => takesLine_basic.append_ne inside (apart (by decide)) r' (List.cons.inj h).2
    · exact nofun
  | @literal w cs inside =>
    rw [List.cons_append, List.append_assoc, List.singleton_append, Quote.read]
    · exact takesLine_literal.read inside _
    · exact nofun
    · exact fun r' h =>
        takesLine_literal.append_ne inside (apart (by decide)) r' (List.cons.inj h).2
  | basicLines opened inside =>
    simp only [List.cons_append, List.append_assoc, List.nil_append]
    rw [Quote.read, opened.skipNewline rfl]
    exact takesLines_basicLines.read (Nat.zero_le 2) (apart (by decide)) inside
  | literalLines opened inside =>
    simp only [List.cons_append, List.append_assoc, List.nil_append]
    rw [Quote.read, opened.skipNewline rfl]
    exact takesLines_literalLines.read (Nat.zero_le 2) (apart (by decide)) inside

end Reading

end Quote

end ServiceWatch.Toml
