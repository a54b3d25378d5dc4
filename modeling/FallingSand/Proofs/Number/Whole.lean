import FallingSand.Turn.Motion

/-!
# Whole parts

A number that is at least one has at least one as its whole part, a number below one has none, and
rounding a count to a number does not make it vanish.  Hence in a grid with a row, a particle whose
gravity is at least one takes at least one vertical step, and one whose gravity is at most one takes
at most one, however many rows there are.
-/

namespace FallingSand

namespace Number

theorem roundHalfEven_pos {num den : Nat} (positive : 0 < den) (large : den ≤ num) :
    0 < roundHalfEven num den := by
  have quotient : 0 < num / den := Nat.div_pos large positive
  exact Nat.lt_of_lt_of_le quotient (div_le_roundHalfEven num den)

theorem ratioLog2_le (num den : Nat) : ratioLog2 num den ≤ Nat.log2 num - Nat.log2 den := by
  unfold ratioLog2
  dsimp only
  split <;> omega

/-- A number divided by a power of two that does not exceed it is at least one. -/
theorem descale_two (exponent : Int) {num : Nat} (positive : 0 < num)
    (fits : exponent ≤ Nat.log2 num) :
    0 < (descale 2 exponent num 1).2 ∧
      (descale 2 exponent num 1).2 ≤ (descale 2 exponent num 1).1 := by
  unfold descale
  simp only [Nat.pow_eq, Nat.one_mul]
  split
  · have power : 2 ^ exponent.toNat ≤ 2 ^ Nat.log2 num :=
      Nat.pow_le_pow_right (by decide) (by omega)
    exact ⟨Nat.two_pow_pos _, Nat.le_trans power (Nat.log2_self_le (Nat.ne_of_gt positive))⟩
  · exact ⟨Nat.one_pos, Nat.mul_pos positive (Nat.two_pow_pos _)⟩

/-- A number of at most twenty-four binary digits is not rounded. -/
theorem nearestNat_of_lt {count : Nat} (small : count < 16777216) :
    BinaryFormat.single.nearestNat count = count := by
  rcases Nat.eq_zero_or_pos count with rfl | positive
  · rfl
  · exact if_pos ((Nat.log2_lt (Nat.ne_of_gt positive)).mpr small)

theorem nearestNat_pos {count : Nat} (positive : 0 < count) :
    0 < BinaryFormat.single.nearestNat count := by
  unfold BinaryFormat.nearestNat
  split
  · exact positive
  · dsimp only
    rw [Nat.shiftLeft_eq]
    refine Nat.mul_pos ?_ (Nat.two_pow_pos _)
    have top := ratioLog2_le count 1
    have ground : Nat.log2 1 = 0 := by decide
    have fits := descale_two (max BinaryFormat.single.minExponent
      (ratioLog2 count 1 - (BinaryFormat.single.precision - 1 : Nat))) positive (by
        simp only [BinaryFormat.single]
        omega)
    exact roundHalfEven_pos fits.1 fits.2

end Number

namespace Single

variable {x : Single}

theorem magnitude_of_one_le (large : one.le x = true) : one.magnitude ≤ x.magnitude := by
  simp only [le, Bool.and_eq_true, decide_eq_true_eq] at large
  have rank := large.2
  have unit : one.rank = one.magnitude := by decide
  have positive : 0 < one.magnitude := by decide
  rw [unit, Single.rank] at rank
  split at rank <;> omega

theorem isPositive_of_one_le (large : one.le x = true) : x.isPositive = true := by
  simp only [le, Bool.and_eq_true, Bool.not_eq_true', decide_eq_true_eq] at large
  have unit : one.rank = 1065353216 := by decide
  have origin : zero.rank = 0 ∧ zero.isNaN = false := by decide
  simp only [isPositive, lt, origin, large.1.2, Bool.not_false, Bool.true_and, decide_eq_true_eq]
  omega

theorem magnitude_abs (x : Single) : x.abs.magnitude = x.magnitude := by
  have small := x.magnitude_lt
  simp only [abs, ofParts, magnitude, Bool.false_eq_true, if_false, UInt32.toNat_ofNat']
  omega

/-- A number that is at least one is a ratio of a numerator to a denominator that is not greater. -/
theorem wholePart_pos (large : one.magnitude ≤ x.magnitude) : 0 < x.wholePart := by
  have unit : one.magnitude = 127 * 8388608 := by decide
  have field : 127 ≤ x.magnitude / 8388608 := by omega
  have normal : x.magnitude / 8388608 ≠ 0 := by omega
  have leading : 23 ≤ Nat.log2 (x.magnitude % 8388608 + 8388608) := by
    rw [Nat.le_log2 (by omega)]
    omega
  unfold wholePart ratio scaled
  simp only [if_neg normal]
  have fits := Number.descale_two (-((x.magnitude / 8388608 : Nat) - 150 : Int))
    (Nat.succ_pos _) (Int.le_trans (by omega) (Int.ofNat_le.mpr leading))
  exact Nat.div_pos fits.2 fits.1

/-- A magnitude below that of one is a ratio of a numerator to a greater denominator. -/
theorem wholePart_eq_zero (small : x.magnitude < one.magnitude) : x.wholePart = 0 := by
  have unit : one.magnitude = 127 * 8388608 := by decide
  have power (exponent : Nat) (far : 24 ≤ exponent) : 16777216 ≤ 2 ^ exponent :=
    Nat.pow_le_pow_right (by decide : 0 < 2) far
  unfold wholePart ratio scaled
  dsimp only
  split
  · have subnormal := power 149 (by decide)
    rw [Number.descale, if_pos (by omega)]
    simp only [Nat.pow_eq, Nat.one_mul]
    exact Nat.div_eq_of_lt (Nat.lt_of_lt_of_le (by omega) subnormal)
  · have shifts : 24 ≤ (-((x.magnitude / 8388608 : Nat) - 150 : Int)).toNat := by omega
    have normal := power _ shifts
    rw [Number.descale, if_pos (by omega)]
    simp only [Nat.pow_eq, Nat.one_mul]
    exact Nat.div_eq_of_lt (by omega)

/-- The magnitude of a number tells the number without its sign. -/
theorem abs_eq_of_magnitude {y : Single} (same : x.magnitude = y.magnitude) : x.abs = y.abs := by
  rw [abs, abs, same]

theorem magnitude_le_of_abs_le_one (small : x.abs.le one = true) :
    x.magnitude ≤ one.magnitude := by
  simp only [le, Bool.and_eq_true, decide_eq_true_eq] at small
  have rank := small.2
  have unit : one.rank = one.magnitude := by decide
  have below := x.magnitude_lt
  have positive : x.abs.isNegative = false := by
    simp only [abs, isNegative, ofParts, Bool.false_eq_true, if_false, UInt32.toNat_ofNat',
      decide_eq_false_iff_not]
    omega
  rw [unit, Single.rank, positive, magnitude_abs, if_neg Bool.false_ne_true] at rank
  omega

end Single

/-- A particle whose gravity is at least one falls. -/
theorem Properties.direction_of_one_le {properties : Properties}
    (heavy : Single.one.le properties.gravity = true) : properties.direction = 1 := by
  rw [Properties.direction, if_pos (Single.isPositive_of_one_le heavy)]

theorem Properties.drawSteps_pos {σ : Type} [RandomSource σ] {properties : Properties}
    (heavy : Single.one.le properties.gravity = true) {limit : Nat} (room : 0 < limit)
    (source : σ) : 0 < (properties.drawSteps limit source).1 := by
  have magnitude : Single.one.magnitude ≤ properties.gravity.abs.magnitude := by
    rw [Single.magnitude_abs]
    exact Single.magnitude_of_one_le heavy
  have whole := Single.wholePart_pos magnitude
  have limited := Number.nearestNat_pos room
  unfold drawSteps
  dsimp only
  split
  · split <;> omega
  · split <;> omega

/-- A particle whose gravity is at most one takes at most one vertical step, and it takes that step
however many rows there are. -/
theorem Properties.drawSteps_of_le_one {σ : Type} [RandomSource σ] {properties : Properties}
    (light : properties.gravity.abs.le Single.one = true) {limit : Nat} (room : 0 < limit)
    (source : σ) :
    properties.drawSteps limit source = properties.drawSteps 1 source ∧
      (properties.drawSteps 1 source).1 ≤ 1 := by
  have limited := Number.nearestNat_pos room
  have single : Number.BinaryFormat.single.nearestNat 1 = 1 := by decide
  have atMost := Single.magnitude_le_of_abs_le_one light
  by_cases unit : properties.gravity.magnitude = Single.one.magnitude
  · have one : properties.gravity.abs = Single.one := by
      rw [Single.abs_eq_of_magnitude unit]
      decide
    have whole : Single.one.wholePart = 1 ∧ Single.one.fractionPart.isPositive = false := by decide
    unfold drawSteps
    simp only [one, whole, single, Bool.false_eq_true, if_false, Prod.mk.injEq, and_true]
    omega
  · have whole : properties.gravity.abs.wholePart = 0 := by
      apply Single.wholePart_eq_zero
      rw [Single.magnitude_abs]
      omega
    unfold drawSteps
    simp only [whole, Nat.zero_min, Prod.mk.injEq, and_true]
    split
    · split <;> omega
    · split <;> omega

end FallingSand
