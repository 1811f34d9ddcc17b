import ServiceWatch.Toml.Quote
import ServiceWatch.Toml.Value

/-!
# Keys

A key is a sequence of parts with points between them, spaces around each allowed. A part is bare,
which is a word of letters, digits, underscores and hyphens of ASCII, or a quoted text on one
line.
-/

namespace ServiceWatch.Toml

/-- A character of a bare part. -/
def isBare (c : Char) : Bool := c.isAlphanum || c = '_' || c = '-'

/-- One part of a key at the beginning of a text. -/
def readPart (cs : List Char) : Option (String × List Char) :=
  match Quote.readLine cs with
  | some (part, rest) => some (String.ofList part, rest)
  | none =>
    match cs.takeWhile isBare with
    | [] => none
    | part => some (String.ofList part, cs.dropWhile isBare)

/-- The parts of a key at the beginning of a text, at most so many. -/
def readParts : Nat → List Char → Option (List String × List Char)
  | 0, _ => none
  | count + 1, cs => do
    let (part, r) ← readPart (skipSpaces cs)
    match skipSpaces r with
    | '.' :: r =>
      let (parts, r) ← readParts count r
      some (part :: parts, r)
    | r => some ([part], r)

/-- A key at the beginning of a text. -/
def readKey (cs : List Char) : Option (List String × List Char) := readParts nestingLimit cs

end ServiceWatch.Toml
