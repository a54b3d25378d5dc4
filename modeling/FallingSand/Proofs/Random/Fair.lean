import FallingSand.Random.Xoshiro
import Mathlib.Logic.Relation

/-!
# Fair sources

A fair source draws its numbers from zero up to one, without one itself, and goes on doing so
whatever is drawn from it.  Then what has probability one always happens.  The seeded generator is
such a source.
-/

namespace FallingSand

namespace RandomSource

variable {σ : Type} [RandomSource σ] {source later : σ}

/-- One draw leads from a source to the next. -/
inductive Next : σ → σ → Prop where
  /-- A coin has been drawn. -/
  | coin (source : σ) : Next source (coin source).2
  /-- A number has been drawn. -/
  | number (source : σ) : Next source (number source).2
  /-- An index has been drawn. -/
  | index (last : Nat) (source : σ) : Next source (index last source).2

/-- After any draws, the number drawn is at least zero and less than one. -/
def Fair (source : σ) : Prop :=
  ∀ later, Relation.ReflTransGen Next source later →
    Single.zero.le (number later).1 = true ∧ (number later).1.lt Single.one = true

namespace Fair

theorem next (fair : Fair source) (draws : Next source later) : Fair later :=
  fun last leads => fair last (.head draws leads)

theorem shuffleFrom {α : Type} (fair : Fair source) (last : Nat) (items : Array α) :
    Fair (FallingSand.shuffleFrom last items source).2 := by
  induction last generalizing items source with
  | zero => exact fair
  | succ last induction => exact induction (fair.next (.index _ _)) _

theorem shuffle {α : Type} (fair : Fair source) (items : Array α) :
    Fair (FallingSand.shuffle items source).2 :=
  fair.shuffleFrom _ _

end Fair

end RandomSource

/-! ## The seeded generator -/

namespace Single

/-- Magnitudes below that of one are those of the numbers below one. -/
theorem ofParts_lt_one {magnitude : Nat} (small : magnitude < one.magnitude) :
    zero.le (ofParts false magnitude) = true ∧ (ofParts false magnitude).lt one = true := by
  have unit : one.magnitude = 1065353216 ∧ one.isNaN = false ∧ one.rank = 1065353216 := by decide
  have origin : zero.isNaN = false ∧ zero.rank = 0 := by decide
  have bits : (ofParts false magnitude).bits.toNat = magnitude := by
    simp only [ofParts, Bool.false_eq_true, if_false, UInt32.toNat_ofNat']
    omega
  have same : (ofParts false magnitude).magnitude = magnitude := by
    rw [Single.magnitude, bits]
    omega
  have number : (ofParts false magnitude).isNaN = false := by
    rw [isNaN, same, infinityMagnitude, decide_eq_false_iff_not]
    omega
  have rank : (ofParts false magnitude).rank = magnitude := by
    rw [Single.rank, isNegative, bits, same, if_neg (by rw [decide_eq_true_eq]; omega)]
  simp only [le, lt, unit, origin, number, rank, Bool.not_false, Bool.true_and, decide_eq_true_eq]
  omega

theorem ofTwentyFourBits_lt_one {numerator : Nat} (small : numerator < 16777216) :
    zero.le (ofTwentyFourBits numerator) = true ∧ (ofTwentyFourBits numerator).lt one = true := by
  rw [ofTwentyFourBits]
  split
  · decide
  · rename_i nonzero
    dsimp only
    have top : Nat.log2 numerator < 24 := (Nat.log2_lt nonzero).mpr small
    have below : numerator < 2 ^ (Nat.log2 numerator + 1) := Nat.lt_log2_self
    -- shifted to the left, the leading bit is that of the exponent field
    have shifted : numerator <<< (23 - Nat.log2 numerator) < 16777216 := by
      calc
        numerator <<< (23 - Nat.log2 numerator) = numerator * 2 ^ (23 - Nat.log2 numerator) :=
          Nat.shiftLeft_eq _ _
        _ < 2 ^ (Nat.log2 numerator + 1) * 2 ^ (23 - Nat.log2 numerator) :=
          Nat.mul_lt_mul_of_pos_right below (Nat.two_pow_pos _)
        _ = 16777216 := by
          rw [← Nat.pow_add, show Nat.log2 numerator + 1 + (23 - Nat.log2 numerator) = 24 by omega]
    have unit : one.magnitude = 127 * 8388608 := by decide
    exact ofParts_lt_one (by omega)

end Single

theorem Xoshiro.fair (state : Xoshiro) : RandomSource.Fair state := by
  intro state _
  refine Single.ofTwentyFourBits_lt_one ?_
  have word : state.output.toNat < 2 ^ 64 := state.output.toNat_lt
  rw [UInt64.toNat_shiftRight, Nat.shiftRight_eq_div_pow]
  exact (Nat.div_lt_iff_lt_mul (Nat.two_pow_pos _)).mpr word

end FallingSand
