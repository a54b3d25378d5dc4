import FallingSand.Proofs.Random.Fair
import FallingSand.Random.Script

/-!
# The numbers of a source

As long as only numbers are drawn from it, a source is a stream of numbers.  A recorded source is
the same stream and shows how far it has been read.
-/

namespace FallingSand

namespace RandomSource

variable {σ : Type} [RandomSource σ]

/-- The source after some numbers have been drawn. -/
def after (source : σ) : Nat → σ
  | 0 => source
  | count + 1 => after (number source).2 count

/-- The number drawn after as many others. -/
def draw (source : σ) (place : Nat) : Single :=
  (number (after source place)).1

/-- The numbers drawn one after another are at least zero and less than one. -/
def Proper (source : σ) : Prop :=
  ∀ place, Single.zero.le (draw source place) = true ∧ (draw source place).lt Single.one = true

theorem Proper.tail {source : σ} (proper : Proper source) : Proper (number source).2 :=
  fun place => proper (place + 1)

theorem Fair.after {source : σ} (fair : Fair source) (count : Nat) :
    Fair (RandomSource.after source count) := by
  induction count generalizing source with
  | zero => exact fair
  | succ count induction => exact induction (fair.next (.number source))

theorem Fair.proper {source : σ} (fair : Fair source) : Proper source :=
  fun place => fair.after place _ .refl

end RandomSource

namespace Recorded

variable {σ : Type} [RandomSource σ]

/-- Of a recorded source, every number drawn is put on record. -/
theorem after_eq (recorded : Recorded σ) (count : Nat) :
    RandomSource.after recorded count =
      { source := RandomSource.after recorded.source count
        draws := List.replicate count .number ++ recorded.draws } := by
  induction count generalizing recorded with
  | zero => rfl
  | succ count induction =>
      rw [List.replicate_succ', List.append_assoc]
      exact induction _

theorem draw_eq (recorded : Recorded σ) :
    RandomSource.draw recorded = RandomSource.draw recorded.source := by
  funext place
  rw [RandomSource.draw, after_eq]
  rfl

end Recorded
end FallingSand
