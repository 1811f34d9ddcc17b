import ServiceWatch.Proofs.Toml.Number
import ServiceWatch.Toml.Read

/-!
# Reading values

What is `Spelled` at the end of a line, which is a text, a truth value or a natural number, is read
as what it stands for wherever a value is expected (`readValue_spelled`).
-/

namespace ServiceWatch.Toml

variable {w cs ds : List Char} {v : Value}

/-- Values without parts are read in the same way at any depth. -/
lemma readValue_scalar (depth : Nat) (list : cs.head? ≠ some '[') (table : cs.head? ≠ some '\x7b') :
    readValue depth cs = readScalar cs := by
  cases depth with
  | zero => rfl
  | succ depth =>
    unfold readValue
    dsimp only
    split
    · exact absurd rfl list
    · exact absurd rfl table
    · rfl

/-- A quoted text is read as the text. -/
lemma readValue_quoted (depth : Nat) (quoted : Quote.Quoted w cs) (r : List Char) :
    readValue depth (w ++ '\n' :: r) = some (.string (String.ofList cs), '\n' :: r) := by
  have read := Quote.read_quoted quoted r
  have scalar : readScalar (w ++ '\n' :: r) =
      (Quote.read (w ++ '\n' :: r)).map fun p => (.string (String.ofList p.1), p.2) := by
    cases quoted <;> rfl
  rw [readValue_scalar, scalar, read, Option.map_some]
  · cases quoted <;> exact (by decide : _ ≠ '[') ∘ Option.some.inj
  · cases quoted <;> exact (by decide : _ ≠ '\x7b') ∘ Option.some.inj

/-- A truth value is read as it is. -/
lemma readValue_truth (depth : Nat) (b : Bool) (r : List Char) :
    readValue depth ((if b then "true" else "false").toList ++ '\n' :: r) =
      some (.boolean b, '\n' :: r) := by
  cases b with
  | true => exact readValue_scalar depth nofun nofun
  | false => exact readValue_scalar depth nofun nofun

/-- Decimal digits are read as their number if it fits. -/
lemma readValue_whole (depth : Nat) (whole : Whole ds) (fits : decimalValue ds ≤ largestInteger)
    (r : List Char) :
    readValue depth (ds ++ '\n' :: r) = some (.integer (decimalValue ds), '\n' :: r) := by
  have number := readNumber_whole whole fits r
  have date := dateTime_read_digits whole.digits (r := r)
  match ds, whole with
  | [], whole => exact absurd rfl whole.ne_nil
  | d :: ds, whole =>
    -- The first digit rules out every other kind of value.
    have digit := whole.digits d List.mem_cons_self
    have other {c : Char} (between : c.isDigit = false) : d ≠ c := ne_of_holds digit between
    rw [readValue_scalar, readScalar, date]
    · exact number
    · exact fun _ h => other rfl (List.cons.inj h).1
    · exact fun _ h => other rfl (List.cons.inj h).1
    · exact fun _ h => other rfl (List.cons.inj h).1
    · exact fun _ h => other rfl (List.cons.inj h).1
    · exact other rfl ∘ Option.some.inj
    · exact other rfl ∘ Option.some.inj

/-- What is spelled at the end of a line is read as what it stands for. -/
theorem readValue_spelled (depth : Nat) (spelled : Spelled w v) (r : List Char) :
    readValue depth (w ++ '\n' :: r) = some (v, '\n' :: r) := by
  cases spelled with
  | text quoted => exact readValue_quoted depth quoted r
  | truth b => exact readValue_truth depth b r
  | count whole fits => exact readValue_whole depth whole fits r

/-- A character with a property that blanks have not is no space. -/
lemma not_space_of_holds {p : Char → Bool} {c : Char} (holds : p c = true) (blank : p ' ' = false)
    (tab : p '\t' = false) : isSpace c = false := by
  rw [isSpace, decide_eq_false (ne_of_holds holds blank), decide_eq_false (ne_of_holds holds tab)]
  rfl

/-- What is spelled does not begin with a space. -/
lemma Spelled.tight (spelled : Spelled w v) : ∀ c ∈ w.head?, isSpace c = false := by
  intro c mem
  cases spelled with
  | text quoted => cases quoted <;> obtain rfl := Option.some.inj mem <;> rfl
  | truth b => cases b <;> obtain rfl := Option.some.inj mem <;> rfl
  | count whole _ =>
    have digit := whole.digits c (List.mem_of_head? mem)
    exact not_space_of_holds digit rfl rfl

end ServiceWatch.Toml
