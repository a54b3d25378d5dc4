import FallingSand.Proofs.Grid.Sites
import Mathlib.Algebra.BigOperators.Group.Finset.Basic
import Mathlib.Tactic.Abel

/-!
# Totals over a board

What every cell contributes at its site is added up.  Replacing a cell replaces its contribution,
and exchanging two cells replaces the contributions of both.  Stated as equations without
subtraction.
-/

namespace FallingSand
namespace Board

variable {size : Size} {M : Type} [AddCommMonoid M]

/-- The contributions of all cells together. -/
def total (board : Board size) (share : Site size → Cell → M) : M :=
  ∑ site, share site (board.cell site)

variable {board other : Board size} {share : Site size → Cell → M}

theorem total_congr
    (same : ∀ site, share site (other.cell site) = share site (board.cell site)) :
    other.total share = board.total share :=
  Finset.sum_congr rfl fun site _ => same site

/-- Replacing a cell replaces its contribution. -/
theorem total_put (board : Board size) (share : Site size → Cell → M) (site : Site size)
    (cell : Cell) :
    (board.put site cell).total share + share site (board.cell site) =
      board.total share + share site cell := by
  have others : ∑ other ∈ Finset.univ.erase site, share other ((board.put site cell).cell other) =
      ∑ other ∈ Finset.univ.erase site, share other (board.cell other) := by
    refine Finset.sum_congr rfl fun other listed => ?_
    rw [cell_put_of_ne _ _ (Finset.ne_of_mem_erase listed)]
  rw [total, total, ← Finset.add_sum_erase _ _ (Finset.mem_univ site), others,
    ← Finset.add_sum_erase _ _ (Finset.mem_univ site), cell_put_self]
  abel

/-- Exchanging two cells replaces the contributions of both. -/
theorem total_exchange (board : Board size) (share : Site size → Cell → M)
    {first second : Site size} (different : first ≠ second) :
    (board.exchange first second).total share +
        (share first (board.cell first) + share second (board.cell second)) =
      board.total share +
        (share first (board.cell second) + share second (board.cell first)) := by
  have earlier := board.total_put share first (board.cell second)
  have later := (board.put first (board.cell second)).total_put share second (board.cell first)
  rw [cell_put_of_ne _ _ different.symm] at later
  calc
    (board.exchange first second).total share +
          (share first (board.cell first) + share second (board.cell second)) =
        (board.exchange first second).total share + share second (board.cell second) +
          share first (board.cell first) := by abel
    _ = (board.put first (board.cell second)).total share + share second (board.cell first) +
          share first (board.cell first) := congrArg (· + _) later
    _ = (board.put first (board.cell second)).total share + share first (board.cell first) +
          share second (board.cell first) := by abel
    _ = board.total share + share first (board.cell second) + share second (board.cell first) :=
        congrArg (· + _) earlier
    _ = _ := by abel

end Board
end FallingSand
