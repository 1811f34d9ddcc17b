import ServiceWatch.Decimal.Binary64

/-!
# Shortest decimals

A binary number is shown by the shortest decimal that reads back as it, of equally short ones by
the closest, written out in full: no exponent, and a point with a zero behind it if the number is
whole. The decimals that read back lie between the two points halfway to its neighbours, which
themselves count if the factor is even.
-/

namespace ServiceWatch.Decimal

/-- The decimals around a number that read back as it: all have the same denominator. -/
structure Span where
  low : Nat
  value : Nat
  high : Nat
  den : Nat
  closed : Bool

namespace Span

/-- The span of `factor · 2 ^ power`. Below a power of two the next number is half as far away as
above it. -/
def ofFactor (factor : Nat) (power : Int) : Span :=
  let (unit, den) := scaled 1 1 (2 - power)
  let below := if factor = powTwo 52 ∧ Binary64.lowestPower < power then 1 else 2
  ⟨(4 * factor - below) * unit, 4 * factor * unit, (4 * factor + 2) * unit, den, factor % 2 = 0⟩

/-- Whether a fraction over the denominator of the span lies in it. -/
def holds (s : Span) (n : Nat) : Bool :=
  if s.closed then s.low ≤ n && n ≤ s.high else s.low < n && n < s.high

/-- The span with value and bounds multiplied by `10 ^ -k`. -/
def atPlace (s : Span) (k : Int) : Span :=
  let up := powTen (-k).toNat
  ⟨s.low * up, s.value * up, s.high * up, s.den * powTen k.toNat, s.closed⟩

/-- The whole number closest to the value, if it lies in the span; of two equally close ones the
larger. -/
def whole? (s : Span) : Option Nat :=
  let below := s.value / s.den
  let above := below + 1
  let lowHit := below ≠ 0 && s.holds (below * s.den)
  let highHit := s.holds (above * s.den)
  if lowHit && highHit then
    if s.value - below * s.den < above * s.den - s.value then some below else some above
  else if lowHit then some below
  else if highHit then some above
  else none

/-- The first decimal in the span, from a place downwards: its digits and the place of the last.
-/
def search (s : Span) : Nat → Int → Nat × Int
  | 0, k => (0, k)
  | steps + 1, k =>
    match (s.atPlace k).whole? with
    | some digits => (digits, k)
    | none => s.search steps (k - 1)

end Span

/-- The digits of the shortest decimal that reads back as `factor · 2 ^ power`, and the place of
the last one. -/
def shortest (factor : Nat) (power : Int) : Nat × Int :=
  (Span.ofFactor factor power).search 640 309

/-- The decimal `digits · 10 ^ place` written out in full. -/
def positional (digits : Nat) (place : Int) : String :=
  let ds := Nat.toDigits 10 digits
  let behind := (-place).toNat
  if 0 ≤ place then String.ofList (ds ++ List.replicate place.toNat '0' ++ ['.', '0'])
  else if behind < ds.length then
    String.ofList (ds.take (ds.length - behind) ++ '.' :: ds.drop (ds.length - behind))
  else String.ofList ('0' :: '.' :: List.replicate (behind - ds.length) '0' ++ ds)

/-- A number written out. -/
def Binary64.text : Binary64 → String
  | nan => "NaN"
  | infinite negative => if negative then "-inf" else "inf"
  | finite negative factor power =>
    let (digits, place) := if factor = 0 then (0, 0) else shortest factor power
    (if negative then "-" else "") ++ positional digits place

end ServiceWatch.Decimal
