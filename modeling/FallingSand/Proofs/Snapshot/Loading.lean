import FallingSand.Proofs.Grid.Alike
import FallingSand.Proofs.Mod.Table

/-!
# Loading what has been kept

Where every element is found by its name, a snapshot of a grid is loaded as the grid it has been
taken of: it has the size, the tick and the elements of that grid, walls for edges, and no marks.
-/

namespace FallingSand

namespace Snapshot

variable {table : ElementTable}

theorem elements_snapshot (named : table.Named) (grid : Grid) :
    (grid.snapshot table).elements table = .ok table.ids := by
  rw [elements, mapM_array_eq_ok_iff]
  refine ⟨by simp [Grid.snapshot, ElementTable.names, ElementTable.ids, ElementTable.size],
    fun place inside => ?_⟩
  obtain ⟨known, name⟩ := ElementTable.getElem_names inside named
  have found := named.idOf?_nameOf known
  rw [← name] at found
  dsimp only [Grid.snapshot]
  rw [found]
  simp [ElementTable.ids]

theorem elementOf_ids {id : ElementId} (known : table.Knows id) :
    elementOf table.ids id.index = .ok id := by
  have found := ElementTable.getElem?_ids known
  rw [ElementId.toNat] at found
  rw [elementOf, found]

end Snapshot

theorem Size.ofNats?_eq (size : Size) : Size.ofNats? size.width size.height = some size := by
  rw [ofNats?, dif_pos ⟨size.width_pos, size.height_pos, size.area_le⟩]

/-- Widths and heights fit into four bytes. -/
theorem Size.toNat_ofNat (size : Size) :
    (UInt32.ofNat size.width).toNat = size.width ∧
      (UInt32.ofNat size.height).toNat = size.height := by
  have width : size.width ≤ size.width * size.height :=
    Nat.le_mul_of_pos_right _ size.height_pos
  have height : size.height ≤ size.width * size.height :=
    Nat.le_mul_of_pos_left _ size.width_pos
  have area := size.area_le
  have small : maxArea < UInt32.size := by decide
  exact ⟨UInt32.toNat_ofNat_of_lt' (by omega), UInt32.toNat_ofNat_of_lt' (by omega)⟩

/-- A snapshot of a grid is loaded as that grid, with walls for edges and without marks. -/
theorem Grid.ofSnapshot_snapshot {table : ElementTable} (named : table.Named) (grid : Grid)
    (known : ∀ site, table.Knows (grid.board.cell site).element) :
    ofSnapshot table (grid.snapshot table) =
      .ok { grid with edge := .wall, board := grid.board.bare } := by
  obtain ⟨width, height⟩ := grid.size.toNat_ofNat
  have size : Size.ofNats? (grid.snapshot table).width.toNat (grid.snapshot table).height.toNat =
      some grid.size := by
    rw [snapshot, width, height, Size.ofNats?_eq]
  have full : (grid.snapshot table).cells.size = grid.size.area := by simp [snapshot]
  have cells : (Vector.mk (grid.snapshot table).cells full).mapM (Snapshot.elementOf table.ids) =
      .ok (grid.board.cells.map Cell.element) := by
    rw [mapM_vector_eq_ok_iff]
    intro place inside
    have here : table.Knows grid.board.cells[place].element :=
      Board.forall_cells (P := fun cell => table.Knows cell.element) known place inside
    simpa [snapshot] using Snapshot.elementOf_ids here
  rw [ofSnapshot, size]
  dsimp only
  rw [dif_pos full, Snapshot.elements_snapshot named, ok_bind, cells, ok_bind, Vector.map_map]
  rfl

end FallingSand
