import FallingSand.Proofs.Grid.Sites
import FallingSand.Snapshot.Basic

/-!
# Grids that differ in marks only

The elements of a board are what is left of it without the marks of its cells.  Two grids with the
same elements, and otherwise the same, are alike, and snapshots do not tell them apart.
-/

namespace FallingSand

variable {size : Size}

/-- The cell without its marks. -/
def Cell.bare (cell : Cell) : Cell :=
  ofElement cell.element

namespace Board

/-- The board with every cell replaced. -/
def map (board : Board size) (f : Cell → Cell) : Board size where
  cells := board.cells.map f

/-- The board without the marks of its cells. -/
def bare (board : Board size) : Board size :=
  board.map Cell.bare

variable {board other : Board size} {f : Cell → Cell} {site : Site size}

@[simp]
theorem cell_map (board : Board size) (f : Cell → Cell) (site : Site size) :
    (board.map f).cell site = f (board.cell site) := by
  simp [Board.cell, map]

theorem put_map (board : Board size) (cell : Cell) :
    (board.map f).put site (f cell) = (board.put site cell).map f := by
  apply ext_cell
  intro other
  simp only [cell_put, cell_map]
  split <;> rfl

theorem bare_eq_iff :
    board.bare = other.bare ↔ ∀ site, (board.cell site).element = (other.cell site).element := by
  constructor
  · intro same site
    have cells := congrArg (fun board => board.cell site) same
    simp only [bare, cell_map] at cells
    exact (congrArg Cell.element cells :)
  · intro same
    apply ext_cell
    intro site
    simp only [bare, cell_map, Cell.bare, same site]

end Board

namespace Grid

/-- Two grids that differ in nothing but the marks of their cells. -/
inductive Alike : Grid → Grid → Prop where
  /-- The boards have the same elements. -/
  | mk {size : Size} (edge : Edge) (tick : UInt64) {board other : Board size}
      (elements : ∀ site, (board.cell site).element = (other.cell site).element) :
      Alike ⟨size, edge, tick, board⟩ ⟨size, edge, tick, other⟩

theorem alike_bare (grid : Grid) : Alike { grid with board := grid.board.bare } grid :=
  .mk grid.edge grid.tick fun site => by rw [Board.bare, Board.cell_map]; rfl

theorem Alike.size_eq {one other : Grid} (alike : one.Alike other) : one.size = other.size := by
  obtain ⟨_, _, _⟩ := alike
  rfl

/-- Marks are not in a snapshot. -/
theorem snapshot_bare (edge : Edge) (tick : UInt64) (board : Board size) (table : ElementTable) :
    snapshot ⟨size, edge, tick, board.bare⟩ table = snapshot ⟨size, edge, tick, board⟩ table := by
  rw [snapshot, snapshot, Snapshot.mk.injEq]
  refine ⟨rfl, rfl, rfl, rfl, ?_⟩
  rw [Board.bare, Board.map, Vector.toArray_map, Array.map_map]
  rfl

theorem Alike.snapshot_eq {one other : Grid} (alike : one.Alike other) (table : ElementTable) :
    one.snapshot table = other.snapshot table := by
  obtain ⟨edge, tick, elements⟩ := alike
  rw [← snapshot_bare, Board.bare_eq_iff.mpr elements, snapshot_bare]

end Grid
end FallingSand
