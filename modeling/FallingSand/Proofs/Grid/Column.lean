import FallingSand.Grid.Board
import FallingSand.Grid.Window
import Mathlib.Data.List.Chain
import Mathlib.Data.List.FinRange
import Mathlib.Data.List.Nodup
import Mathlib.Data.Nat.Choose.Basic

/-!
# Columns out of order

In a column of falling cells, one above another is out of order if the upper one is occupied and the
lower one unoccupied or less dense.  Exchanging two such neighbors leaves one pair less out of
order, and where no two neighbors are out of order no pair is.
-/

namespace FallingSand

namespace Single

variable {x y z : Single}

theorem le_trans (xy : x.le y = true) (yz : y.le z = true) : x.le z = true := by
  simp only [le, Bool.and_eq_true, decide_eq_true_eq] at *
  exact ⟨⟨xy.1.1, yz.1.2⟩, by omega⟩

theorem lt_asymm (xy : x.lt y = true) : y.lt x = false := by
  rw [← Bool.not_eq_true]
  intro yx
  have same := lt_trans xy yx
  rw [lt_irrefl] at same
  cases same

end Single

/-! ## Pairs out of order -/

namespace ElementTable

/-- A cell with the one element sinks through a cell with the other one below it. -/
def sinks (table : ElementTable) (upper lower : ElementId) : Bool :=
  !upper.isEmpty &&
    (lower.isEmpty || (table.properties lower).density.lt (table.properties upper).density)

/-- The number of pairs, in a column from the top down, of which the upper sinks through the
lower. -/
def inversions (table : ElementTable) : List ElementId → Nat
  | [] => 0
  | upper :: rest => rest.countP (table.sinks upper) + table.inversions rest

/-- One element may rest on the other: the upper cell is unoccupied, or both are occupied and the
lower one is at least as dense. -/
def Rests (table : ElementTable) (upper lower : ElementId) : Prop :=
  upper.isEmpty = true ∨ lower.isEmpty = false ∧
    (table.properties upper).density.le (table.properties lower).density = true

/-- From the top down, all unoccupied cells come first, and the densities do not decrease. -/
def Settled (table : ElementTable) (column : List ElementId) : Prop :=
  column.Pairwise table.Rests

variable {table : ElementTable} {upper lower : ElementId} {above below column : List ElementId}

theorem sinks_asymm (sinks : table.sinks upper lower = true) :
    table.sinks lower upper = false := by
  simp only [ElementTable.sinks, Bool.and_eq_true, Bool.not_eq_true', Bool.or_eq_true] at sinks ⊢
  obtain ⟨occupied, empty | lighter⟩ := sinks
  · simp [empty]
  · simp [occupied, Single.lt_asymm lighter]

/-- Exchanging neighbors that are out of order leaves one pair less out of order. -/
theorem inversions_exchange (sinks : table.sinks upper lower = true) :
    table.inversions (above ++ lower :: upper :: below) + 1 =
      table.inversions (above ++ upper :: lower :: below) := by
  induction above with
  | nil =>
      simp only [List.nil_append, inversions, List.countP_cons, sinks, sinks_asymm sinks]
      simp only [if_true, Bool.false_eq_true, if_false]
      omega
  | cons first above induction =>
      have swapped := (List.Perm.swap upper lower below).append_left above
      have counts := swapped.countP_eq (table.sinks first)
      simp only [List.cons_append, inversions]
      omega

theorem inversions_le (table : ElementTable) (column : List ElementId) :
    table.inversions column ≤ column.length * (column.length - 1) / 2 := by
  rw [← Nat.choose_two_right]
  induction column with
  | nil => exact Nat.zero_le _
  | cons upper rest induction =>
      have counts : rest.countP (table.sinks upper) ≤ rest.length := List.countP_le_length
      rw [inversions, List.length_cons, Nat.choose_succ_succ, Nat.choose_one_right]
      exact Nat.add_le_add counts induction

/-! ## Settled columns -/

section Settled

variable (numbers : ∀ id, (table.properties id).density.isNaN = false)

include numbers

theorem rests_iff : table.Rests upper lower ↔ table.sinks upper lower = false := by
  have compare := Single.not_lt_iff_le (numbers lower) (numbers upper)
  rw [Rests, ← compare, sinks]
  cases upper.isEmpty <;> cases lower.isEmpty <;> simp

theorem settled_iff : table.Settled column ↔ table.inversions column = 0 := by
  induction column with
  | nil => exact iff_of_true List.Pairwise.nil rfl
  | cons upper rest induction =>
      rw [Settled, List.pairwise_cons, ← Settled, induction, inversions, Nat.add_eq_zero_iff,
        List.countP_eq_zero]
      simp only [rests_iff numbers, Bool.not_eq_true]

omit numbers in
theorem Rests.trans {first second third : ElementId} (one : table.Rests first second)
    (other : table.Rests second third) : table.Rests first third := by
  rcases one with empty | ⟨occupied, dense⟩
  · exact Or.inl empty
  · rcases other with empty | ⟨there, denser⟩
    · rw [occupied] at empty
      cases empty
    · exact Or.inr ⟨there, Single.le_trans dense denser⟩

/-- A column is settled if no two neighbors in it are out of order. -/
theorem settled_of_neighbors
    (neighbors : ∀ (place : Nat) (inside : place + 1 < column.length),
      table.sinks column[place] column[place + 1] = false) : table.Settled column := by
  have : IsTrans ElementId table.Rests := ⟨fun _ _ _ => Rests.trans⟩
  rw [Settled, ← List.isChain_iff_pairwise, List.isChain_iff_getElem]
  intro place inside
  exact (rests_iff numbers).mpr (neighbors place inside)

end Settled
end ElementTable

/-! ## The column of a board -/

/-- The sites of the first column, from the top down. -/
def Size.firstColumn (size : Size) : List (Site size) :=
  size.sitesOfColumn ⟨0, size.width_pos⟩

section FirstColumn

variable {size : Size} (narrow : size.width = 1)

theorem length_firstColumn (size : Size) : size.firstColumn.length = size.height := by
  simp [Size.firstColumn, Size.sitesOfColumn]

theorem nodup_firstColumn (size : Size) : size.firstColumn.Nodup := by
  refine (List.nodup_finRange _).map fun first second same => ?_
  simp only [Site.mk.injEq] at same
  exact same.2

include narrow

theorem Site.eq_of_y {first second : Site size} (same : first.y.val = second.y.val) :
    first = second := by
  obtain ⟨x, y⟩ := first
  obtain ⟨x', y'⟩ := second
  have left := x.isLt
  have right := x'.isLt
  simp only [Site.mk.injEq]
  exact ⟨Fin.ext (by omega), Fin.ext same⟩

theorem getElem?_firstColumn (site : Site size) :
    size.firstColumn[site.y.val]? = some site := by
  have only : site = ⟨⟨0, size.width_pos⟩, site.y⟩ := Site.eq_of_y narrow rfl
  rw [only]
  simp [Size.firstColumn, Size.sitesOfColumn]

/-- Two neighbors in the first column, with the sites above and below them. -/
theorem firstColumn_split {upper lower : Site size} (below : lower.y.val = upper.y.val + 1) :
    ∃ above beneath, size.firstColumn = above ++ upper :: lower :: beneath ∧
      above.length = upper.y.val ∧ ∀ site ∈ above ++ beneath, site ≠ upper ∧ site ≠ lower := by
  obtain ⟨inside, first⟩ := List.getElem?_eq_some_iff.mp (getElem?_firstColumn narrow upper)
  obtain ⟨within, second⟩ := List.getElem?_eq_some_iff.mp (getElem?_firstColumn narrow lower)
  simp only [below] at within second
  have split := List.take_append_drop upper.y.val size.firstColumn
  rw [List.drop_eq_getElem_cons inside, List.drop_eq_getElem_cons within, first, second] at split
  have distinct := nodup_firstColumn size
  rw [← split, List.nodup_middle, List.nodup_cons, List.nodup_middle, List.nodup_cons] at distinct
  obtain ⟨upperApart, lowerApart, -⟩ := distinct
  refine ⟨_, _, split.symm, List.length_take_of_le inside.le, fun site listed => ⟨?_, ?_⟩⟩
  · rintro rfl
    refine upperApart (List.mem_append.mpr ?_)
    exact (List.mem_append.mp listed).imp_right (List.mem_cons_of_mem _)
  · rintro rfl
    exact lowerApart listed

end FirstColumn

namespace Board

variable {size : Size} {board other : Board size}

/-- The elements of the first column, from the top down. -/
def column (board : Board size) : List ElementId :=
  size.firstColumn.map fun site => (board.cell site).element

theorem length_column (board : Board size) : board.column.length = size.height := by
  rw [column, List.length_map, length_firstColumn]

theorem column_congr
    (same : ∀ site, (other.cell site).element = (board.cell site).element) :
    other.column = board.column :=
  List.map_congr_left fun site _ => same site

theorem getElem?_column (narrow : size.width = 1) (board : Board size) (site : Site size) :
    board.column[site.y.val]? = some (board.cell site).element := by
  rw [column, List.getElem?_map, getElem?_firstColumn narrow, Option.map_some]

theorem drop_column (narrow : size.width = 1) (board : Board size) (site : Site size) :
    board.column.drop site.y.val =
      (board.cell site).element :: board.column.drop (site.y.val + 1) := by
  obtain ⟨inside, here⟩ := List.getElem?_eq_some_iff.mp (getElem?_column narrow board site)
  rw [List.drop_eq_getElem_cons inside, here]

/-- Two neighbors in the column, with what is above and below them, before and after they change
places. -/
theorem column_exchange (narrow : size.width = 1) (board : Board size) {upper lower : Site size}
    (below : lower.y.val = upper.y.val + 1) :
    ∃ above beneath, above.length = upper.y.val ∧
      board.column =
        above ++ (board.cell upper).element :: (board.cell lower).element :: beneath ∧
      (board.exchange upper lower).column =
        above ++ (board.cell lower).element :: (board.cell upper).element :: beneath := by
  obtain ⟨above, beneath, split, row, apart⟩ := firstColumn_split narrow below
  have different : upper ≠ lower := by
    rintro rfl
    omega
  have kept (site : Site size) (listed : site ∈ above ++ beneath) :
      ((board.exchange upper lower).cell site).element = (board.cell site).element := by
    rw [cell_exchange, if_neg (apart site listed).2, if_neg (apart site listed).1]
  have aboveKept := List.map_congr_left fun site listed => kept site (List.mem_append_left _ listed)
  have beneathKept := List.map_congr_left fun site listed =>
    kept site (List.mem_append_right _ listed)
  refine ⟨above.map fun site => (board.cell site).element,
    beneath.map fun site => (board.cell site).element, by rw [List.length_map, row], ?_, ?_⟩
  · simp only [column, split, List.map_append, List.map_cons]
  · simp only [column, split, List.map_append, List.map_cons, aboveKept, beneathKept]
    rw [cell_exchange, cell_exchange, if_neg different, if_pos rfl, if_pos rfl]

/-- The cells of two neighbors that are out of order change places, and one pair less is out of
order. -/
theorem inversions_column_exchange (narrow : size.width = 1) {table : ElementTable}
    {upper lower : Site size} (below : lower.y.val = upper.y.val + 1)
    (sinks : table.sinks (board.cell upper).element (board.cell lower).element = true) :
    table.inversions (board.exchange upper lower).column + 1 = table.inversions board.column := by
  obtain ⟨above, beneath, -, before, after⟩ := board.column_exchange narrow below
  rw [before, after]
  exact ElementTable.inversions_exchange sinks

end Board
end FallingSand
