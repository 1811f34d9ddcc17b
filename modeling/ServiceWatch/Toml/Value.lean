import ServiceWatch.Decimal.Binary64

/-!
# TOML values

What stands behind a key of a TOML document. A document is the list of its top-level entries, in
the order in which they stand in the text.
-/

namespace ServiceWatch.Toml

/-- A day of the calendar. -/
structure Date where
  year : Nat
  month : Nat
  day : Nat
  deriving DecidableEq

/-- A time of day, with the digits of its fraction of a second. -/
structure Time where
  hour : Nat
  minute : Nat
  second : Nat
  fraction : List Char
  deriving DecidableEq

/-- How far a time of day is ahead of or behind universal time. -/
inductive Offset
  | universal
  | ahead (hour minute : Nat)
  | behind (hour minute : Nat)
  deriving DecidableEq

/-- A point in time, as far as it is said. -/
inductive DateTime
  | date (d : Date)
  | time (t : Time)
  | both (d : Date) (t : Time) (offset : Option Offset)
  deriving DecidableEq

/-- A value of a document. -/
inductive Value
  | string (s : String)
  | integer (n : Int)
  | float (x : Decimal.Binary64)
  | boolean (b : Bool)
  | dateTime (d : DateTime)
  | array (items : List Value)
  | table (entries : List (String × Value))

/-- The top-level entries of a document, in their order. -/
abbrev Document := List (String × Value)

/-- The value of a top-level key. -/
def Document.get? (d : Document) (key : String) : Option Value := d.lookup key

/-- The largest integer of a document; integers have 64 bits, one of them for the sign. -/
def largestInteger : Nat := 9223372036854775807

/-- How deep arrays and inline tables can be nested at most, and how many parts a key can have. -/
def nestingLimit : Nat := 79

end ServiceWatch.Toml
