import ServiceWatch.Toml.Key
import ServiceWatch.Toml.Number

/-!
# Spellings

The grammar of TOML for lines that set keys to plain values, as relations between what is written
and what it stands for. A quoted text is told by its pieces: between basic marks a character stands
for itself or is escaped, between literal marks it stands for itself. Over several lines there may
also be line ends, and up to two marks in a row. (A line end that is escaped has no rule here.)
-/

namespace ServiceWatch.Toml

namespace Quote

/-- What stands for a character between basic marks: itself, or an escape by letter or number. -/
inductive Escaped (c : Char) : List Char → Prop
  | plain (plain : isPlain c = true) (mark : c ≠ '"') (slash : c ≠ '\\') : Escaped c [c]
  | letter {l : Char} (stands : letter? l = some c) : Escaped c ['\\', l]
  | short {w x y z : Char} (stands : hexScalar? [w, x, y, z] = some c) :
      Escaped c ['\\', 'u', w, x, y, z]
  | long {s t u v w x y z : Char} (stands : hexScalar? [s, t, u, v, w, x, y, z] = some c) :
      Escaped c ['\\', 'U', s, t, u, v, w, x, y, z]

/-- What stands for a character between literal marks: itself. -/
inductive Verbatim (c : Char) : List Char → Prop
  | plain (plain : isPlain c = true) (mark : c ≠ '\'') : Verbatim c [c]

/-- What stands for a text on one line, piece by piece. -/
inductive OneLine (Piece : Char → List Char → Prop) : List Char → List Char → Prop
  | nil : OneLine Piece [] []
  | cons {c : Char} {v w cs : List Char} (piece : Piece c v) (rest : OneLine Piece w cs) :
      OneLine Piece (v ++ w) (c :: cs)

/-- What stands for a text over several lines, behind so many marks in a row. Any line end stands
for a line feed, and a mark for itself as long as it is not the third in a row. -/
inductive ManyLines (Piece : Char → List Char → Prop) (mark : Char) :
    Nat → List Char → List Char → Prop
  | nil {run : Nat} : ManyLines Piece mark run [] []
  | mark {run : Nat} {w cs : List Char} (room : run < 2)
      (rest : ManyLines Piece mark (run + 1) w cs) :
      ManyLines Piece mark run (mark :: w) (mark :: cs)
  | feed {run : Nat} {w cs : List Char} (rest : ManyLines Piece mark 0 w cs) :
      ManyLines Piece mark run ('\n' :: w) ('\n' :: cs)
  | returnFeed {run : Nat} {w cs : List Char} (rest : ManyLines Piece mark 0 w cs) :
      ManyLines Piece mark run ('\r' :: '\n' :: w) ('\n' :: cs)
  | piece {run : Nat} {c : Char} {v w cs : List Char} (piece : Piece c v)
      (rest : ManyLines Piece mark 0 w cs) : ManyLines Piece mark run (v ++ w) (c :: cs)

/-- What follows opening marks over several lines: the first line end is dropped, so it has to be
there where another one comes next. -/
inductive Opened (w : List Char) : List Char → Prop
  | directly (inside : newline? w = none) : Opened w w
  | feed : Opened w ('\n' :: w)
  | returnFeed : Opened w ('\r' :: '\n' :: w)

/-- What stands for a text, its marks included. -/
inductive Quoted : List Char → List Char → Prop
  | basic {w cs : List Char} (inside : OneLine Escaped w cs) : Quoted ('"' :: (w ++ ['"'])) cs
  | literal {w cs : List Char} (inside : OneLine Verbatim w cs) :
      Quoted ('\'' :: (w ++ ['\''])) cs
  | basicLines {v w cs : List Char} (opened : Opened w v)
      (inside : ManyLines Escaped '"' 0 w cs) :
      Quoted ('"' :: '"' :: '"' :: (v ++ ['"', '"', '"'])) cs
  | literalLines {v w cs : List Char} (opened : Opened w v)
      (inside : ManyLines Verbatim '\'' 0 w cs) :
      Quoted ('\'' :: '\'' :: '\'' :: (v ++ ['\'', '\'', '\''])) cs

end Quote

/-- Decimal digits without a needless zero in front. -/
structure Whole (ds : List Char) : Prop where
  digits : ∀ c ∈ ds, c.isDigit = true
  ne_nil : ds ≠ []
  unpadded : ∀ {ds'}, ds = '0' :: ds' → ds' = []

/-- What stands for a text, a truth value, or a natural number of 64 bits with a sign. -/
inductive Spelled : List Char → Value → Prop
  | text {w cs : List Char} (quoted : Quote.Quoted w cs) : Spelled w (.string (String.ofList cs))
  | truth (b : Bool) : Spelled (if b then "true" else "false").toList (.boolean b)
  | count {ds : List Char} (whole : Whole ds) (fits : decimalValue ds ≤ largestInteger) :
      Spelled ds (.integer (decimalValue ds))

/-- A key that needs no marks. -/
structure BareKey (key : String) : Prop where
  named : key.toList ≠ []
  bare : ∀ c ∈ key.toList, isBare c = true

/-- The line that sets a key to what is written, its end included. -/
def entryLine (key : String) (written : List Char) : List Char :=
  key.toList ++ [' ', '=', ' '] ++ written ++ ['\n']

/-- A line that sets a key: what is written for the value, and the value that it stands for. -/
structure Line where
  key : String
  written : List Char
  value : Value
  bare : BareKey key
  spelled : Spelled written value

namespace Line

/-- The text of a line. -/
def text (l : Line) : List Char := entryLine l.key l.written

/-- What a line sets. -/
def entry (l : Line) : String × Value := (l.key, l.value)

end Line

end ServiceWatch.Toml
