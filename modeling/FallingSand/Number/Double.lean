import FallingSand.Number.Single

/-!
# Double-precision numbers

A number read from text in double precision, as far as settings need one: it is read from a decimal
numeral, written as the shortest numeral that reads back, and rounded to a natural number.
-/

namespace FallingSand

/-- A double-precision number. -/
inductive Double where
  /-- Not a number. -/
  | nan
  /-- Infinity of a sign. -/
  | infinity (negative : Bool)
  /-- The number `± significand * 2 ^ exponent`. -/
  | finite (negative : Bool) (significand : Nat) (exponent : Int)
  deriving DecidableEq, Repr

namespace Double

/-- Zero of a sign. -/
def zero (negative : Bool) : Double :=
  finite negative 0 0

/-- The number with the given sign closest to a positive ratio. -/
def ofRatio (negative : Bool) (num den : Nat) : Double :=
  let (significand, exponent) := Number.BinaryFormat.double.nearest num den
  let (significand, exponent) :=
    if significand = 1 <<< 53 then (1 <<< 52, exponent + 1) else (significand, exponent)
  if 971 < exponent then infinity negative else finite negative significand exponent

/-- The number closest to a decimal numeral.  A numeral far outside the range of the format is
settled by the place of its leading digit. -/
def ofDecimal (numeral : Number.Decimal) : Double :=
  if numeral.digits = 0 then zero numeral.negative
  else if 320 < numeral.place then infinity numeral.negative
  else if numeral.place < -340 then zero numeral.negative
  else
    let (num, den) := numeral.ratio
    ofRatio numeral.negative num den

/-- The double-precision number equal to a single-precision one. -/
def ofSingle (x : Single) : Double :=
  if x.isNaN then nan
  else if !x.isFinite then infinity x.isNegative
  else if x.isZero then zero x.isNegative
  else
    let (num, den) := x.ratio
    ofRatio x.isNegative num den

/-- The number that a text stands for: a decimal numeral, or a word for infinity or not-a-number
after an optional sign. -/
def ofText? (text : String) : Option Double :=
  let (negative, unsigned) := Number.Decimal.splitSign text.toList
  let word := (String.ofList unsigned).toLower
  if word = "inf" ∨ word = "infinity" then some (infinity negative)
  else if word = "nan" then some nan
  else (Number.Decimal.ofText? text.toList).map ofDecimal

/-- The shortest numeral that reads back as this number, written without an exponent. -/
def toText : Double → String
  | nan => "NaN"
  | infinity negative => if negative then "-inf" else "inf"
  | finite negative significand exponent =>
      let (digits, place) :=
        if significand = 0 then (0, 0)
        else Number.BinaryFormat.double.shortest significand exponent
      (Number.Decimal.mk negative digits place).toText

/-- The natural number up to `bound` closest to the number, a half going up: negative numbers and
not-a-number give zero. -/
def roundToNat (bound : Nat) : Double → Nat
  | nan => 0
  | infinity negative => if negative then 0 else bound
  | finite negative significand exponent =>
      if negative then 0
      else
        let (num, den) := Number.descale 2 (-exponent) significand 1
        min ((2 * num + den) / (2 * den)) bound

end Double
end FallingSand
