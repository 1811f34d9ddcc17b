/-!
# Binary floating point

A number of 64 bits is zero or infinite or not a number, or it is a whole multiple of a power of
two whose factor has at most 53 binary digits. `Binary64.nearest` reads a decimal: it gives the
closest such number, and of two equally close ones the one with the even factor.
-/

namespace ServiceWatch.Decimal

/-- A number of 64 bits. -/
inductive Binary64
  | nan
  | infinite (negative : Bool)
  | finite (negative : Bool) (factor : Nat) (power : Int)
  deriving DecidableEq

/-- The quotient rounded to the nearest whole number; halfway between two, to the even one. -/
def roundDiv (num den : Nat) : Nat :=
  let q := num / den
  let r := num % den
  if 2 * r < den then q
  else if den < 2 * r then q + 1
  else if q % 2 = 0 then q else q + 1

/-- The power of two with an exponent. -/
def powTwo (k : Nat) : Nat := Nat.pow 2 k

/-- The power of ten with an exponent. -/
def powTen (k : Nat) : Nat := Nat.pow 10 k

/-- A fraction divided by a power of two, as a fraction. -/
def scaled (num den : Nat) (power : Int) : Nat × Nat :=
  (num * powTwo (-power).toNat, den * powTwo power.toNat)

namespace Binary64

/-- The lowest power of two that a factor can stand before. -/
def lowestPower : Int := -1074

/-- The highest power of two that a factor of full length can stand before. -/
def highestPower : Int := 971

/-- The power of two before which a positive fraction has a factor of full length, as far as there
is one. -/
def powerFor (num den : Nat) : Int :=
  -- The logarithms give the length of the quotient up to one digit, and the guess is the lower.
  let guess : Int := max (num.log2 - den.log2 - 53) lowestPower
  let (n, d) := scaled num den guess
  if n / d < powTwo 53 then guess else guess + 1

/-- The number closest to a positive fraction. -/
def ofFraction (negative : Bool) (num den : Nat) : Binary64 :=
  let power := powerFor num den
  let (n, d) := scaled num den power
  let factor := roundDiv n d
  -- Rounding up may give a digit too many; the factor is then a power of two.
  let (factor, power) := if factor = powTwo 53 then (powTwo 52, power + 1) else (factor, power)
  if highestPower < power then infinite negative else finite negative factor power

/-- Powers of ten from here on lead out of the range of finite numbers. -/
def beyondRange : Int := 310

/-- Powers of ten up to here lead below half the smallest positive number. -/
def belowRange : Int := -330

/-- The number closest to `digits · 10 ^ exponent`. -/
def nearest (negative : Bool) (digits : Nat) (exponent : Int) : Binary64 :=
  let length : Int := (Nat.toDigits 10 digits).length
  if digits = 0 then finite negative 0 0
  else if beyondRange < length + exponent then infinite negative
  else if length + exponent < belowRange then finite negative 0 0
  else ofFraction negative (digits * powTen exponent.toNat) (powTen (-exponent).toNat)

end Binary64

end ServiceWatch.Decimal
