import ServiceWatch.Decimal.Shortest
import ServiceWatch.Text.Quoted
import ServiceWatch.Toml.Codec
import ServiceWatch.Toml.Document

/-!
# The standard reader and writer

A `Decoder` and an `Encoder` that run. The reader says in words what is wrong with a value; about
the form of a text there is nothing to say.
-/

namespace ServiceWatch

open Text Toml

/-- The wanted type in words. -/
def Toml.Wanted.words : Wanted → String
  | text => "a string"
  | truth => "a boolean"
  | count => "usize"

/-- A value in words, as far as it is of use to say what is wrong with it. -/
def Toml.Value.words : Value → String
  | .string s => "string " ++ quoted s
  | .integer n => "integer `" ++ toString n ++ "`"
  | .float x => "floating point `" ++ x.text ++ "`"
  | .boolean b => "boolean `" ++ (if b then "true" else "false") ++ "`"
  | .dateTime _ => "map"
  | .array _ => "sequence"
  | .table _ => "map"

/-- Why a document or one of its values cannot be read. -/
inductive ReadFault
  | malformed
  | mistyped (found : Value) (wanted : Wanted)
  | negative (n : Int)

/-- The fault in words; about the form of the text there is nothing to say. -/
def ReadFault.message : ReadFault → String
  | malformed => ""
  | mistyped found wanted => "invalid type: " ++ found.words ++ ", expected " ++ wanted.words
  | negative n => "invalid value: integer `" ++ toString n ++ "`, expected " ++ Wanted.count.words

/-- Why a record cannot be written. -/
inductive WriteFault
  | tooLarge

namespace Toml

/-- The reader that runs. -/
def Decoder.standard : Decoder ReadFault where
  parse text :=
    match Document.parse? text with
    | some d => .ok d
    | none => .error .malformed
  text
    | .string s => .ok s
    | v => .error (.mistyped v .text)
  truth
    | .boolean b => .ok b
    | v => .error (.mistyped v .truth)
  count
    | .integer n => if 0 ≤ n then .ok n.toNat else .error (.negative n)
    | v => .error (.mistyped v .count)

/-- The writer that runs. -/
def Encoder.standard : Encoder WriteFault where
  render fields :=
    if ∀ f ∈ fields, f.2.Fits then .ok (String.ofList (fields.flatMap Field.line))
    else .error .tooLarge

end Toml

end ServiceWatch
