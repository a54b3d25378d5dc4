import FallingSand.Number.Decimal

/-!
# Single-precision numbers

A `Single` is the bit pattern of a 32-bit binary floating-point number.  Everything the simulation
asks of one is defined on the pattern: its class, the order of numbers (on which the two zeros are
equal and not-a-number is below and above nothing), the total order of patterns, the whole and the
fractional part of a magnitude, and the conversions from ratios and decimal numerals, which round to
nearest.
-/

namespace FallingSand

/-- A 32-bit binary floating-point number, as its bits. -/
structure Single where
  /-- Sign bit, eight exponent bits and twenty-three fraction bits. -/
  bits : UInt32
  deriving DecidableEq

namespace Single

/-- The bits below the sign bit. -/
def magnitude (x : Single) : Nat :=
  x.bits.toNat % 2147483648

/-- Whether the sign bit is set. -/
def isNegative (x : Single) : Bool :=
  2147483648 ≤ x.bits.toNat

theorem magnitude_lt (x : Single) : x.magnitude < 2147483648 :=
  Nat.mod_lt _ (by decide)

/-- The magnitude bits of infinity. -/
def infinityMagnitude : Nat := 0x7f800000

/-- Not a number. -/
def isNaN (x : Single) : Bool :=
  infinityMagnitude < x.magnitude

/-- Neither infinite nor not a number. -/
def isFinite (x : Single) : Bool :=
  x.magnitude < infinityMagnitude

/-- The pattern with the given sign and magnitude bits. -/
def ofParts (negative : Bool) (magnitude : Nat) : Single :=
  ⟨UInt32.ofNat (if negative then magnitude + 2147483648 else magnitude)⟩

/-- Positive zero. -/
def zero : Single := ⟨0⟩

/-- The number one. -/
def one : Single := ⟨0x3f800000⟩

/-- One half. -/
def half : Single := ⟨0x3f000000⟩

/-- A quiet not-a-number. -/
def nan : Single := ⟨0x7fc00000⟩

/-- Infinity of the given sign. -/
def infinity (negative : Bool) : Single :=
  ofParts negative infinityMagnitude

instance : Inhabited Single := ⟨zero⟩

/-- The same number with the other sign. -/
def neg (x : Single) : Single :=
  ofParts (!x.isNegative) x.magnitude

/-- The same number without its sign. -/
def abs (x : Single) : Single :=
  ofParts false x.magnitude

/-! ## Order -/

/-- An integer that orders the patterns of numbers as the numbers are ordered; both zeros have rank
zero. -/
def rank (x : Single) : Int :=
  if x.isNegative then -(x.magnitude : Int) else x.magnitude

/-- Strictly less, as numbers. -/
def lt (x y : Single) : Bool :=
  !x.isNaN && !y.isNaN && x.rank < y.rank

/-- Less or equal, as numbers. -/
def le (x y : Single) : Bool :=
  !x.isNaN && !y.isNaN && x.rank ≤ y.rank

/-- Whether the pattern is one of the two zeros. -/
def isZero (x : Single) : Bool :=
  x.magnitude == 0

/-- Strictly above zero. -/
def isPositive (x : Single) : Bool :=
  zero.lt x

/-- Strictly below zero. -/
def isBelowZero (x : Single) : Bool :=
  x.lt zero

/-- An integer that orders all patterns, negative zero just below positive zero and not-a-number
outermost on the side of its sign. -/
def totalRank (x : Single) : Int :=
  if x.isNegative then -(x.magnitude : Int) - 1 else x.magnitude

theorem lt_irrefl (x : Single) : x.lt x = false := by
  simp [lt]

theorem lt_trans {x y z : Single} (xy : x.lt y = true) (yz : y.lt z = true) :
    x.lt z = true := by
  simp only [lt, Bool.and_eq_true, decide_eq_true_eq] at *
  exact ⟨⟨xy.1.1, yz.1.2⟩, by omega⟩

theorem lt_of_le_of_lt {x y z : Single} (xy : x.le y = true) (yz : y.lt z = true) :
    x.lt z = true := by
  simp only [le, lt, Bool.and_eq_true, decide_eq_true_eq] at *
  exact ⟨⟨xy.1.1, yz.1.2⟩, by omega⟩

theorem not_lt_iff_le {x y : Single} (hx : x.isNaN = false) (hy : y.isNaN = false) :
    x.lt y = false ↔ y.le x = true := by
  simp [lt, le, hx, hy]

/-- The lesser of two numbers; the first one when they do not compare. -/
def min (x y : Single) : Single :=
  if y.lt x then y else x

/-! ## Parts of a magnitude -/

/-- Significand and exponent of a finite magnitude. -/
def scaled (x : Single) : Nat × Int :=
  let field := x.magnitude / 8388608
  let fraction := x.magnitude % 8388608
  if field = 0 then (fraction, -149) else (fraction + 8388608, (field : Int) - 150)

/-- A finite magnitude as a ratio of natural numbers. -/
def ratio (x : Single) : Nat × Nat :=
  let (significand, exponent) := x.scaled
  Number.descale 2 (-exponent) significand 1

/-- A finite magnitude rounded down to a natural number. -/
def wholePart (x : Single) : Nat :=
  x.ratio.1 / x.ratio.2

/-! ## Rounding into the format -/

/-- The number with the given sign closest to a ratio; too great a ratio gives infinity. -/
def ofRatio (negative : Bool) (num den : Nat) : Single :=
  if num = 0 then ofParts negative 0
  else
    let (significand, exponent) := Number.BinaryFormat.single.nearest num den
    let magnitude := (exponent + 149).toNat * 8388608 + significand
    ofParts negative (if magnitude < infinityMagnitude then magnitude else infinityMagnitude)

/-- The number closest to a natural number. -/
def ofNat (n : Nat) : Single :=
  ofRatio false n 1

/-- The number closest to a decimal numeral.  A numeral far outside the range of the format is
settled by the place of its leading digit. -/
def ofDecimal (numeral : Number.Decimal) : Single :=
  if numeral.digits = 0 then ofParts numeral.negative 0
  else if 40 < numeral.place then infinity numeral.negative
  else if numeral.place < -60 then ofParts numeral.negative 0
  else
    let (num, den) := numeral.ratio
    ofRatio numeral.negative num den

instance : OfScientific Single where
  ofScientific digits negativeExponent exponent :=
    ofDecimal ⟨false, digits, if negativeExponent then -exponent else exponent⟩

instance (n : Nat) : OfNat Single n := ⟨ofNat n⟩

instance : Neg Single := ⟨neg⟩

/-- The part of a finite magnitude after the binary point. -/
def fractionPart (x : Single) : Single :=
  ofRatio false (x.ratio.1 % x.ratio.2) x.ratio.2

/-- The number `numerator / 2 ^ 24`, exact for a numerator below `2 ^ 24`. -/
def ofTwentyFourBits (numerator : Nat) : Single :=
  if numerator = 0 then zero
  else
    let top := Nat.log2 numerator
    ofParts false ((top + 102) * 8388608 + numerator <<< (23 - top))

/-- The product, rounded to nearest; infinity times zero is not a number. -/
def mul (x y : Single) : Single :=
  let negative := x.isNegative != y.isNegative
  if x.isNaN || y.isNaN then nan
  else if x.isFinite && y.isFinite then
    ofRatio negative (x.ratio.1 * y.ratio.1) (x.ratio.2 * y.ratio.2)
  else if x.isZero || y.isZero then nan
  else infinity negative

/-- The natural number up to `bound` closest to the number cut off at its point: negative numbers
and not-a-number give zero. -/
def truncate (bound : Nat) (x : Single) : Nat :=
  if x.isNaN || x.isNegative then 0
  else if x.isFinite then Nat.min x.wholePart bound
  else bound

theorem truncate_le (bound : Nat) (x : Single) : x.truncate bound ≤ bound := by
  unfold truncate
  split
  · exact Nat.zero_le _
  · split
    · exact Nat.min_le_right _ _
    · exact Nat.le_refl _

/-! ## Text -/

/-- The shortest numeral that reads back as this number, written without an exponent. -/
def toText (x : Single) : String :=
  if x.isNaN then "NaN"
  else if !x.isFinite then (if x.isNegative then "-inf" else "inf")
  else
    let (digits, exponent) :=
      if x.isZero then (0, 0)
      else
        let (significand, exponent) := x.scaled
        Number.BinaryFormat.single.shortest significand exponent
    (Number.Decimal.mk x.isNegative digits exponent).toText

instance : ToString Single := ⟨toText⟩

end Single
end FallingSand
