import FallingSand.Number.Rounding

/-!
# Decimal numerals

A decimal numeral is a sign, a natural number of digits and a power of ten.  This file reads one
from text, writes one positionally, rounds one into a binary format, and finds the shortest numeral
that a binary format rounds back to a given number.
-/

namespace FallingSand
namespace Number

/-- The number `± digits * 10 ^ exponent`. -/
structure Decimal where
  /-- Whether the numeral carries a minus sign. -/
  negative : Bool
  /-- The significant digits, read as a natural number. -/
  digits : Nat
  /-- The power of ten that scales the digits. -/
  exponent : Int
  deriving DecidableEq, Repr

namespace Decimal

/-- Value of a run of decimal digits continuing the number `start`. -/
def natOfDigits (start : Nat) (digits : List Char) : Nat :=
  digits.foldl (fun value digit => 10 * value + (digit.toNat - '0'.toNat)) start

/-- The value of a nonempty run of decimal digits. -/
def digitsToNat? (digits : List Char) : Option Nat :=
  if digits.isEmpty || !digits.all Char.isDigit then none else some (natOfDigits 0 digits)

/-- Split a leading sign off: whether it is a minus, and the rest. -/
def splitSign : List Char → Bool × List Char
  | '-' :: rest => (true, rest)
  | '+' :: rest => (false, rest)
  | rest => (false, rest)

/-- The integer that an optional sign and a nonempty run of digits denote. -/
def intOfText? (text : List Char) : Option Int :=
  let (negative, digits) := splitSign text
  (digitsToNat? digits).map fun value => if negative then -(value : Int) else value

/-- Read an exponent part: nothing, or a letter `e` followed by an integer. -/
def exponentOfText? : List Char → Option Int
  | [] => some 0
  | letter :: rest => if letter = 'e' || letter = 'E' then intOfText? rest else none

/-- Read a numeral: an optional sign, digits with at most one point and at least one digit, and an
optional exponent. -/
def ofText? (text : List Char) : Option Decimal :=
  let (negative, unsigned) := splitSign text
  let whole := unsigned.takeWhile Char.isDigit
  let afterWhole := unsigned.dropWhile Char.isDigit
  let (fraction, afterFraction) :=
    match afterWhole with
    | '.' :: rest => (rest.takeWhile Char.isDigit, rest.dropWhile Char.isDigit)
    | rest => ([], rest)
  if whole.isEmpty && fraction.isEmpty then none
  else
    (exponentOfText? afterFraction).map fun exponent =>
      { negative
        digits := natOfDigits (natOfDigits 0 whole) fraction
        exponent := exponent - fraction.length }

/-- Write the numeral without an exponent: zeros fill the places between its digits and the units,
and no point is written when no digit follows it. -/
def toText (numeral : Decimal) : String :=
  let digits := Nat.toDigits 10 numeral.digits
  let unsigned :=
    if 0 ≤ numeral.exponent then digits ++ List.replicate numeral.exponent.toNat '0'
    else
      let places := (-numeral.exponent).toNat
      let padded := List.replicate (places + 1 - digits.length) '0' ++ digits
      padded.take (padded.length - places) ++ '.' :: padded.drop (padded.length - places)
  String.ofList (if numeral.negative then '-' :: unsigned else unsigned)

/-- The place of the leading digit: the magnitude lies below `10 ^ place` and, unless it is zero,
not below `10 ^ (place - 1)`. -/
def place (numeral : Decimal) : Int :=
  (Nat.toDigits 10 numeral.digits).length + numeral.exponent

/-- The magnitude of the numeral as a ratio. -/
def ratio (numeral : Decimal) : Nat × Nat :=
  descale 10 (-numeral.exponent) numeral.digits 1

end Decimal

/-- The multiples of `10 ^ place` next to `center * 2 ^ exponent` that lie between the bounds `low`
and `high` (in the same unit, included when `closed`); of two, the nearer, and of two equally near
the greater. -/
def multipleWithin? (low center high : Nat) (exponent : Int) (closed : Bool) (place : Int) :
    Option Nat :=
  let (unit, whole) := descale 2 (-exponent) 1 1
  let (unit, grid) := descale 10 place unit whole
  let below := center * unit / grid
  let above := below + 1
  let belowFits := low * unit < below * grid || (closed && low * unit == below * grid)
  let aboveFits := above * grid < high * unit || (closed && above * grid == high * unit)
  let nearerBelow := 2 * (center * unit) < (below + above) * grid
  if belowFits && (nearerBelow || !aboveFits) then some below
  else if aboveFits then some above
  else none

/-- Search ever finer decimal places for a multiple inside the rounding interval. -/
def shortestFrom (low center high : Nat) (exponent : Int) (closed : Bool) :
    (tries : Nat) → (place : Int) → Nat × Int
  | 0, place => (0, place)
  | tries + 1, place =>
      match multipleWithin? low center high exponent closed place with
      | some digits => (digits, place)
      | none => shortestFrom low center high exponent closed tries (place - 1)

/-- Digits and power of ten of the shortest numeral that rounds to `significand * 2 ^ exponent` in
the format, and of the shortest ones the closest.  The interval of reals that round there reaches
half a unit up and down, but only a quarter of one down from a power of two, and it includes its
ends when the significand is even. -/
def BinaryFormat.shortest (format : BinaryFormat) (significand : Nat) (exponent : Int) :
    Nat × Int :=
  let narrow := significand == 1 <<< (format.precision - 1) && exponent != format.minExponent
  let reach : Int := Nat.log2 significand + exponent + 1
  let start : Int := (if 0 ≤ reach then reach * 31 else reach * 30) / 100 + 1
  shortestFrom (4 * significand - if narrow then 1 else 2) (4 * significand) (4 * significand + 2)
    (exponent - 2) (significand % 2 == 0) 64 start

end Number
end FallingSand
