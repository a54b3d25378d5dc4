/-!
# Rounding a ratio to a binary format

A binary format has a precision and a least exponent.  `BinaryFormat.nearest` sends a positive ratio
of naturals to the significand and exponent of the closest number of the format, a tie going to the
even significand, with no upper bound on the exponent: overflow is the business of the format's
encoding.  All of it is exact arithmetic on naturals.
-/

namespace FallingSand
namespace Number

/-- The natural number closest to `num / den`, a tie going to the even neighbour. -/
def roundHalfEven (num den : Nat) : Nat :=
  let quotient := num / den
  let twice := 2 * (num % den)
  if twice < den then quotient
  else if den < twice then quotient + 1
  else quotient + quotient % 2

theorem div_le_roundHalfEven (num den : Nat) : num / den ≤ roundHalfEven num den := by
  unfold roundHalfEven
  dsimp only
  split
  · omega
  · split <;> omega

/-- The shape of a binary floating-point format. -/
structure BinaryFormat where
  /-- Number of significant binary digits. -/
  precision : Nat
  /-- Exponent of the least positive number of the format. -/
  minExponent : Int

namespace BinaryFormat

/-- The 32-bit interchange format. -/
def single : BinaryFormat where
  precision := 24
  minExponent := -149

/-- The 64-bit interchange format. -/
def double : BinaryFormat where
  precision := 53
  minExponent := -1074

end BinaryFormat

/-- The ratio `num / (den * base ^ exponent)` as a numerator and a denominator. -/
def descale (base : Nat) (exponent : Int) (num den : Nat) : Nat × Nat :=
  if 0 ≤ exponent then (num, den * base.pow exponent.toNat)
  else (num * base.pow (-exponent).toNat, den)

/-- The greatest `e` with `2 ^ e ≤ num / den`, for a positive ratio. -/
def ratioLog2 (num den : Nat) : Int :=
  let guess : Int := (Nat.log2 num : Int) - (Nat.log2 den : Int)
  let (top, bottom) := descale 2 guess num den
  if bottom ≤ top then guess else guess - 1

/-- Significand and exponent of the number of the format closest to a positive ratio.  The
significand may have reached the next power of two, which is the same number one exponent up. -/
def BinaryFormat.nearest (format : BinaryFormat) (num den : Nat) : Nat × Int :=
  let exponent := max format.minExponent (ratioLog2 num den - (format.precision - 1 : Nat))
  let (top, bottom) := descale 2 exponent num den
  (roundHalfEven top bottom, exponent)

/-- The whole number closest to a natural number among those that the format represents. -/
def BinaryFormat.nearestNat (format : BinaryFormat) (n : Nat) : Nat :=
  if Nat.log2 n < format.precision then n
  else
    let (significand, exponent) := format.nearest n 1
    significand <<< exponent.toNat

end Number
end FallingSand
