import ServiceWatch.Toml.Calendar

/-!
# Numbers

Integers are written in decimal with an optional sign and without leading zeros, or without a sign
in base sixteen, eight or two behind `0x`, `0o` or `0b`; they have to fit into 64 bits. Floats
have a fraction, an exponent or both, or are infinite or not a number. Single underscores may
stand between digits. A float whose nearest number is positive infinity is refused.
-/

namespace ServiceWatch.Toml

open Decimal

/-- The digits that continue a number, underscores between them left out. -/
def moreDigits (isDigit : Char → Bool) : List Char → List Char × List Char
  | [] => ([], [])
  | ['_'] => ([], ['_'])
  | '_' :: c :: r =>
    if isDigit c then
      let (ds, rest) := moreDigits isDigit r
      (c :: ds, rest)
    else ([], '_' :: c :: r)
  | c :: r =>
    if isDigit c then
      let (ds, rest) := moreDigits isDigit r
      (c :: ds, rest)
    else ([], c :: r)

/-- The digits at the beginning of a text, at least one. -/
def digits (isDigit : Char → Bool) : List Char → Option (List Char × List Char)
  | [] => none
  | c :: r =>
    if isDigit c then
      let (ds, rest) := moreDigits isDigit r
      some (c :: ds, rest)
    else none

/-- The number that digits write in a base. -/
def digitsValue (base : Nat) (value : Char → Nat) (ds : List Char) : Nat :=
  ds.foldl (fun n d => base * n + value d) 0

/-- The number that decimal digits write. -/
def decimalValue (ds : List Char) : Nat := digitsValue 10 digitValue ds

/-- Whether the sign at the beginning of a text is a minus, and what follows it. -/
def sign : List Char → Bool × List Char
  | '-' :: r => (true, r)
  | '+' :: r => (false, r)
  | cs => (false, cs)

/-- Decimal digits without a leading zero. -/
def wholeDigits : List Char → Option (List Char × List Char)
  | '0' :: r => some (['0'], r)
  | cs => digits Char.isDigit cs

/-- A number with a sign, if it is not zero. -/
def signed (negative : Bool) (n : Nat) : Int := if negative then -(n : Int) else n

/-- An integer, if it fits into 64 bits. -/
def integer? (n : Int) : Option Value :=
  if -9223372036854775808 ≤ n ∧ n ≤ 9223372036854775807 then some (.integer n) else none

/-- A float, unless it is too large. -/
def float? (x : Binary64) : Option Value :=
  if x = .infinite false then none else some (.float x)

/-- The exponent of a float, behind its letter. -/
def readExponent (cs : List Char) : Option (Int × List Char) :=
  let (negative, cs) := sign cs
  (digits Char.isDigit cs).map fun (ds, rest) => (signed negative (decimalValue ds), rest)

/-- The exponent of a float if there is one. -/
def optionalExponent : List Char → Option (Int × List Char)
  | [] => some (0, [])
  | c :: r => if c = 'e' ∨ c = 'E' then readExponent r else some (0, c :: r)

/-- What follows the whole digits of a decimal number: the fraction and the exponent of a float,
or nothing. -/
def readDecimal (negative : Bool) (whole : List Char) :
    List Char → Option (Value × List Char)
  | '.' :: r => do
    let (fraction, r) ← digits Char.isDigit r
    let (exponent, r) ← optionalExponent r
    let x := Binary64.nearest negative (decimalValue (whole ++ fraction))
      (exponent - fraction.length)
    (← float? x, r)
  | r => do
    if r.head? = some 'e' || r.head? = some 'E' then
      let (exponent, r) ← optionalExponent r
      (← float? (Binary64.nearest negative (decimalValue whole) exponent), r)
    else (← integer? (signed negative (decimalValue whole)), r)

/-- The value of a hexadecimal digit; digits of smaller bases are among them. -/
def baseDigitValue (c : Char) : Nat :=
  if c.isDigit then digitValue c
  else if c.isLower then c.toNat - 'a'.toNat + 10
  else c.toNat - 'A'.toNat + 10

/-- Whether a character is a digit of a base up to sixteen. -/
def isBaseDigit (base : Nat) (c : Char) : Bool :=
  (c.isDigit || ('a' ≤ c && c ≤ 'f') || ('A' ≤ c && c ≤ 'F')) && baseDigitValue c < base

/-- An integer in a base other than ten, behind its mark. -/
def readBase (base : Nat) (cs : List Char) : Option (Value × List Char) := do
  let (ds, r) ← digits (isBaseDigit base) cs
  (← integer? (digitsValue base baseDigitValue ds), r)

/-- A float that is written by name. -/
def readSpecial (negative : Bool) : List Char → Option (Value × List Char)
  | 'i' :: 'n' :: 'f' :: r => some (.float (.infinite negative), r)
  | 'n' :: 'a' :: 'n' :: r => some (.float .nan, r)
  | _ => none

/-- A number at the beginning of a text. -/
def readNumber (cs : List Char) : Option (Value × List Char) :=
  match cs with
  | '0' :: 'x' :: r => readBase 16 r
  | '0' :: 'o' :: r => readBase 8 r
  | '0' :: 'b' :: r => readBase 2 r
  | cs =>
    let (negative, r) := sign cs
    match wholeDigits r with
    | some (whole, r) => readDecimal negative whole r
    | none => readSpecial negative r

end ServiceWatch.Toml
