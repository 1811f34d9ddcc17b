import ServiceWatch.Toml.Spelling

/-!
# Reading and writing TOML

Whatever reads TOML is a `Decoder`, and whatever writes it an `Encoder`; neither is fixed here. What
is relied on is what is documented of both, one structure for each matter. `Decoder.HandsOver`: the
entries of a document come in its order, under distinct keys. `Decoder.Converts`: a value is taken
for its own type and for no other. `Decoder.ReadsLines`: lines are read by the grammar, and integers
are those of 64 bits. `Encoder.WritesLines`: a field that is set takes a line, a text is written in
the first of the four forms that suits it, and a record with a larger integer is refused.
-/

namespace ServiceWatch.Toml

/-- What a field of a record holds when it is written. -/
inductive Field
  | text (s : String)
  | truth (b : Bool)
  | count (n? : Option Nat)

namespace Field

/-- The value that a field is set to, if it is set. -/
def value? : Field → Option Value
  | text s => some (.string s)
  | truth b => some (.boolean b)
  | count n? => n?.map fun n => .integer n

/-- What is written for a field, if it is set. -/
def written? : Field → Option (List Char)
  | text s => some (Quote.writeBest s.toList)
  | truth b => some (if b then "true" else "false").toList
  | count n? => n?.map (Nat.toDigits 10)

/-- A number that fits into 64 bits with a sign, or anything else. -/
def Fits : Field → Prop
  | count (some n) => n ≤ largestInteger
  | _ => True

instance : DecidablePred Fits
  | text _ => inferInstanceAs (Decidable True)
  | truth _ => inferInstanceAs (Decidable True)
  | count none => inferInstanceAs (Decidable True)
  | count (some n) => inferInstanceAs (Decidable (n ≤ largestInteger))

/-- The line of a field under its key; none if the field is not set. -/
def line (f : String × Field) : List Char :=
  match f.2.written? with
  | some written => entryLine f.1 written
  | none => []

end Field

/-- The text that a value is. -/
def Value.text? : Value → Option String
  | string s => some s
  | _ => none

/-- The truth that a value is. -/
def Value.truth? : Value → Option Bool
  | boolean b => some b
  | _ => none

/-- The number of things that a value is. -/
def Value.count? : Value → Option Nat
  | integer n => if 0 ≤ n then some n.toNat else none
  | _ => none

/-- An integer that fits into 64 bits, or anything else. -/
def Value.Fits : Value → Prop
  | integer n => -9223372036854775808 ≤ n ∧ n ≤ 9223372036854775807
  | _ => True

/-- The types that values are converted to. -/
inductive Wanted
  | text
  | truth
  | count
  deriving DecidableEq

/-- A reader of TOML: the top-level entries of a text in their order, and the conversion of a value
to a type that is wanted. -/
structure Decoder (ε : Type) where
  parse : String → Except ε Document
  text : Value → Except ε String
  truth : Value → Except ε Bool
  count : Value → Except ε Nat

/-- A writer of TOML: the text of a record with its fields in their order. -/
structure Encoder (δ : Type) where
  render : List (String × Field) → Except δ String

variable {ε δ : Type}

/-- Why there is no answer, if there is none. -/
def refusal? {ε α : Type} : Except ε α → Option ε
  | .ok _ => none
  | .error fault => some fault

/-- What is wrong with a value where a type is wanted. -/
def Decoder.fault? (decoder : Decoder ε) : Wanted → Value → Option ε
  | .text, v => refusal? (decoder.text v)
  | .truth, v => refusal? (decoder.truth v)
  | .count, v => refusal? (decoder.count v)

/-- The top-level entries of a valid text are handed over as they stand in it; `toml` says which
texts are valid and what their entries are. -/
structure Decoder.HandsOver (decoder : Decoder ε) (toml : String → Document → Prop) : Prop where
  entries : ∀ {text d}, toml text d → decoder.parse text = .ok d
  distinct : ∀ {text d}, toml text d → (d.map Prod.fst).Nodup

/-- A value is converted to its own type, and an integer that is not negative to a count. -/
structure Decoder.Converts (decoder : Decoder ε) : Prop where
  text : ∀ v s, decoder.text v = .ok s ↔ v = .string s
  truth : ∀ v b, decoder.truth v = .ok b ↔ v = .boolean b
  count : ∀ v (n : Nat), decoder.count v = .ok n ↔ v = .integer n

/-- Lines with different keys set what is spelled in them, and no integer has more than 64 bits. -/
structure Decoder.ReadsLines (decoder : Decoder ε) : Prop where
  lines : ∀ {ls : List Line}, (ls.map Line.key).Nodup →
    decoder.parse (String.ofList (ls.flatMap Line.text)) = .ok (ls.map Line.entry)
  fits : ∀ {text d}, decoder.parse text = .ok d → ∀ e ∈ d, e.2.Fits

/-- A record with different bare keys is written line by line, and exactly if its numbers fit. -/
structure Encoder.WritesLines (encoder : Encoder δ) : Prop where
  lines : ∀ {fields : List (String × Field)} {text : String}, (∀ f ∈ fields, BareKey f.1) →
    (fields.map Prod.fst).Nodup →
    (encoder.render fields = .ok text ↔
      (∀ f ∈ fields, f.2.Fits) ∧ text = String.ofList (fields.flatMap Field.line))

end ServiceWatch.Toml
