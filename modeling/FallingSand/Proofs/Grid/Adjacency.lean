import FallingSand.Grid.Window
import Mathlib.Tactic.Common

/-!
# Adjacent sites

Two sites are adjacent when they lie side by side in a row or a column, and a king can step between
them when it may also go diagonally.  Over joined edges the first and the last column lie side by
side.  Whatever a window finds one step away from a site is adjacent to it in this sense.
-/

namespace FallingSand

/-- Two columns lie side by side. -/
def Edge.Beside {width : Nat} (edge : Edge) (first second : Fin width) : Prop :=
  first.val + 1 = second.val ∨ second.val + 1 = first.val ∨
    edge = .wrap ∧
      (first.val = 0 ∧ second.val + 1 = width ∨ second.val = 0 ∧ first.val + 1 = width)

/-- One of two rows lies directly above the other. -/
def RowsTouch {height : Nat} (first second : Fin height) : Prop :=
  first.val + 1 = second.val ∨ second.val + 1 = first.val

/-- Two different sites lie side by side in a row or a column. -/
def Adjacent {size : Size} (edge : Edge) (first second : Site size) : Prop :=
  first ≠ second ∧
    (first.x = second.x ∧ RowsTouch first.y second.y ∨
      first.y = second.y ∧ edge.Beside first.x second.x)

/-- A king can step from one site to the other. -/
def KingAdjacent {size : Size} (edge : Edge) (first second : Site size) : Prop :=
  first ≠ second ∧ (first.x = second.x ∨ edge.Beside first.x second.x) ∧
    (first.y = second.y ∨ RowsTouch first.y second.y)

section Symmetry

variable {size : Size} {edge : Edge} {first second : Site size}

theorem Edge.Beside.symm {width : Nat} {first second : Fin width}
    (beside : edge.Beside first second) : edge.Beside second first := by
  rcases beside with next | next | ⟨joined, ends⟩
  · exact Or.inr (Or.inl next)
  · exact Or.inl next
  · exact Or.inr (Or.inr ⟨joined, ends.symm⟩)

theorem Adjacent.symm (adjacent : Adjacent edge first second) : Adjacent edge second first := by
  obtain ⟨different, ⟨column, rows⟩ | ⟨row, columns⟩⟩ := adjacent
  · exact ⟨different.symm, Or.inl ⟨column.symm, Or.symm rows⟩⟩
  · exact ⟨different.symm, Or.inr ⟨row.symm, columns.symm⟩⟩

theorem KingAdjacent.symm (adjacent : KingAdjacent edge first second) :
    KingAdjacent edge second first := by
  obtain ⟨different, columns, rows⟩ := adjacent
  exact ⟨different.symm, columns.imp Eq.symm Edge.Beside.symm, rows.imp Eq.symm Or.symm⟩

end Symmetry

/-- Rows with one row more on each side contain the rows next to them. -/
theorem Rows.contains_widen {rows : Rows} {height y next : Nat} (own : rows.contains y = true)
    (near : next ≤ y + 1 ∧ y ≤ next + 1) (below : next < height) :
    (rows.widen height).contains next = true := by
  simp only [Rows.contains_iff, widen] at own ⊢
  omega

theorem Adjacent.near {size : Size} {edge : Edge} {first second : Site size}
    (adjacent : Adjacent edge first second) :
    second.y.val ≤ first.y.val + 1 ∧ first.y.val ≤ second.y.val + 1 := by
  obtain ⟨-, ⟨-, below | above⟩ | ⟨row, -⟩⟩ := adjacent
  · omega
  · omega
  · omega

/-! ## One step from a site -/

namespace Size

variable {size : Size}

theorem column?_eq_some {x : Int} {column : Fin size.width} (found : size.column? x = some column) :
    x = column.val := by
  rw [column?] at found
  split at found
  · rename_i inside
    obtain rfl := Option.some.inj found
    exact (Int.toNat_of_nonneg inside.1).symm
  · cases found

theorem row?_eq_some {y : Int} {row : Fin size.height} (found : size.row? y = some row) :
    y = row.val := by
  rw [row?] at found
  split at found
  · rename_i inside
    obtain rfl := Option.some.inj found
    exact (Int.toNat_of_nonneg inside.1).symm
  · cases found

theorem wrappedColumn_val (size : Size) (x : Int) :
    ((size.wrappedColumn x).val : Int) = x % size.width := by
  have positive : (size.width : Int) ≠ 0 := by
    have := size.width_pos
    omega
  exact Int.toNat_of_nonneg (Int.emod_nonneg x positive)

end Size

namespace Window

variable {size : Size} {window : Window} {position : Position} {site target : Site size}

theorem resolve_eq_some (found : window.resolve position = some target) :
    position.y = target.y.val ∧ window.column? size position.x = some target.x := by
  rw [resolve] at found
  split at found
  · rename_i row inside
    split at found
    · obtain ⟨column, reached, rfl⟩ := Option.map_eq_some_iff.mp found
      exact ⟨Size.row?_eq_some inside, reached⟩
    · cases found
  · cases found

theorem contains_of_resolve (found : window.resolve position = some target) :
    window.rows.contains target.y = true := by
  rw [resolve] at found
  split at found
  · split at found
    · rename_i inside
      obtain ⟨column, -, rfl⟩ := Option.map_eq_some_iff.mp found
      exact inside
    · cases found
  · cases found

theorem column?_val (window : Window) (x : Fin size.width) :
    window.column? size (x.val : Int) = some x := by
  have bound := x.isLt
  rw [column?]
  split
  · rw [Size.column?, dif_pos ⟨by omega, by omega⟩]
    rfl
  · have value := size.wrappedColumn_val x.val
    rw [Int.emod_eq_of_lt (by omega) (by omega)] at value
    exact congrArg some (Fin.ext (Int.ofNat.inj value))

/-- A window finds exactly the sites of its rows, each in its row and column. -/
theorem resolve_eq_some_iff :
    window.resolve position = some target ↔
      position.y = target.y.val ∧ window.column? size position.x = some target.x ∧
        window.rows.contains target.y = true := by
  constructor
  · intro found
    obtain ⟨row, column⟩ := resolve_eq_some found
    exact ⟨row, column, contains_of_resolve found⟩
  · rintro ⟨row, column, inside⟩
    have stands : size.row? position.y = some target.y := by
      have bound := target.y.isLt
      rw [row, Size.row?, dif_pos ⟨by omega, by omega⟩]
      rfl
    rw [resolve, stands]
    dsimp only
    rw [if_pos inside, column]
    rfl

/-- A site in the rows of a window is found at its position. -/
theorem resolve_position (window : Window) (inside : window.rows.contains site.y = true) :
    window.resolve site.position = some site :=
  resolve_eq_some_iff.mpr ⟨rfl, column?_val window site.x, inside⟩

theorem column?_self {x column : Fin size.width}
    (found : window.column? size (x.val : Int) = some column) : x = column := by
  rw [column?] at found
  apply Fin.ext
  split at found
  · exact Int.ofNat.inj (Size.column?_eq_some found)
  · obtain rfl := Option.some.inj found
    have value := size.wrappedColumn_val x.val
    rw [Int.emod_eq_of_lt (by omega) (by have := x.isLt; omega)] at value
    omega

theorem beside_of_column? {x column : Fin size.width} {shift : Int}
    (unit : shift = 1 ∨ shift = -1)
    (found : window.column? size (x.val + shift) = some column) : window.edge.Beside x column := by
  have bound := x.isLt
  rw [column?] at found
  split at found
  · have value := Size.column?_eq_some found
    rcases unit with rfl | rfl
    · exact Or.inl (by omega)
    · exact Or.inr (Or.inl (by omega))
  · rename_i joined
    obtain rfl := Option.some.inj found
    have value := size.wrappedColumn_val (x.val + shift)
    -- only from the first and the last column does a step lead over the joined edges
    rcases unit with rfl | rfl
    · by_cases last : x.val + 1 = size.width
      · have full : ((x.val : Int) + 1) % size.width = 0 := by
          rw [show (x.val : Int) + 1 = size.width by omega, Int.emod_self]
        exact Or.inr (Or.inr ⟨joined, Or.inr ⟨by omega, last⟩⟩)
      · have part : ((x.val : Int) + 1) % size.width = x.val + 1 :=
          Int.emod_eq_of_lt (by omega) (by omega)
        exact Or.inl (by omega)
    · by_cases first : x.val = 0
      · have full : ((x.val : Int) + -1) % size.width = size.width - 1 := by
          rw [← Int.add_emod_right, Int.emod_eq_of_lt (by omega) (by omega)]
          omega
        exact Or.inr (Or.inr ⟨joined, Or.inl ⟨first, by omega⟩⟩)
      · have part : ((x.val : Int) + -1) % size.width = x.val + -1 :=
          Int.emod_eq_of_lt (by omega) (by omega)
        exact Or.inr (Or.inl (by omega))

/-- What is found one step away can be reached by a king. -/
theorem kingAdjacent_of_resolve {offset : Position}
    (found : window.resolve (site.position + offset) = some target) (different : target ≠ site)
    (across : offset.x = 0 ∨ offset.x = 1 ∨ offset.x = -1)
    (along : offset.y = 0 ∨ offset.y = 1 ∨ offset.y = -1) :
    KingAdjacent window.edge site target := by
  obtain ⟨row, column⟩ := resolve_eq_some found
  simp only [Position.add_x, Position.add_y, Site.position] at row column
  refine ⟨different.symm, ?_, ?_⟩
  · rcases across with still | unit
    · rw [still, Int.add_zero] at column
      exact Or.inl (column?_self column)
    · exact Or.inr (beside_of_column? unit column)
  · rcases along with still | below | above
    · exact Or.inl (Fin.ext (by omega))
    · exact Or.inr (Or.inl (by omega))
    · exact Or.inr (Or.inr (by omega))

/-- What is found below, right, above or left of a site is adjacent to it. -/
theorem adjacent_of_resolve {offset : Position} (orthogonal : offset ∈ orthogonal)
    (found : window.resolve (site.position + offset) = some target) (different : target ≠ site) :
    Adjacent window.edge site target := by
  obtain ⟨row, column⟩ := resolve_eq_some found
  simp only [Position.add_x, Position.add_y, Site.position] at row column
  refine ⟨different.symm, ?_⟩
  simp only [FallingSand.orthogonal, List.mem_cons, List.not_mem_nil, or_false] at orthogonal
  rcases orthogonal with rfl | rfl | rfl | rfl <;> dsimp only at row column
  · exact Or.inl ⟨column?_self (by simpa using column), Or.inl (by omega)⟩
  · exact Or.inr ⟨Fin.ext (by omega), beside_of_column? (Or.inl rfl) column⟩
  · exact Or.inl ⟨column?_self (by simpa using column), Or.inr (by omega)⟩
  · exact Or.inr ⟨Fin.ext (by omega), beside_of_column? (Or.inr rfl) column⟩

theorem mem_around {offsets : List Position} :
    target ∈ window.around offsets site.position ↔
      (∃ offset ∈ offsets, window.resolve (site.position + offset) = some target) ∧
        target ≠ site := by
  rw [around, List.mem_eraseDups, List.mem_filter, List.mem_filterMap, decide_eq_true_iff]
  refine and_congr_right fun _ => not_congr ⟨Site.position_injective, ?_⟩
  rintro rfl
  rfl

theorem adjacent_of_mem_around {offsets : List Position}
    (orthogonal : ∀ offset ∈ offsets, offset ∈ orthogonal)
    (listed : target ∈ window.around offsets site.position) :
    Adjacent window.edge site target := by
  obtain ⟨⟨offset, given, found⟩, different⟩ := mem_around.mp listed
  exact adjacent_of_resolve (orthogonal offset given) found different

/-- Over joined edges, the column before the first is the last one. -/
theorem column?_before_first {column : Fin size.width} (joined : window.edge = .wrap)
    (last : column.val + 1 = size.width) : window.column? size (-1) = some column := by
  have value := size.wrappedColumn_val (-1)
  rw [← Int.add_emod_right, Int.emod_eq_of_lt (by omega) (by omega)] at value
  rw [column?, joined]
  exact congrArg some (Fin.ext (by omega))

/-- Over joined edges, the column after the last is the first one. -/
theorem column?_after_last {column : Fin size.width} (joined : window.edge = .wrap)
    (first : column.val = 0) : window.column? size size.width = some column := by
  have value := size.wrappedColumn_val size.width
  rw [Int.emod_self] at value
  rw [column?, joined]
  exact congrArg some (Fin.ext (by omega))

/-- An adjacent site in the rows of a window is found below, right, above or left. -/
theorem exists_offset_of_adjacent (adjacent : Adjacent window.edge site target)
    (inside : window.rows.contains target.y = true) :
    ∃ offset ∈ orthogonal, window.resolve (site.position + offset) = some target := by
  have found (x y : Int) (listed : ⟨x, y⟩ ∈ orthogonal) (row : site.y.val + y = target.y.val)
      (column : window.column? size (site.x.val + x) = some target.x) :
      ∃ offset ∈ orthogonal, window.resolve (site.position + offset) = some target :=
    ⟨⟨x, y⟩, listed, resolve_eq_some_iff.mpr ⟨row, column, inside⟩⟩
  have straight {x : Int} (right : site.x.val + x = target.x.val) :
      window.column? size (site.x.val + x) = some target.x := by
    rw [right, column?_val]
  obtain ⟨-, ⟨column, below | above⟩ | ⟨row, right | left | ⟨joined, ends | ends⟩⟩⟩ := adjacent
  · exact found 0 1 (by decide) (by omega) (straight (by rw [column, Int.add_zero]))
  · exact found 0 (-1) (by decide) (by omega) (straight (by rw [column, Int.add_zero]))
  · exact found 1 0 (by decide) (by rw [row, Int.add_zero]) (straight (by omega))
  · exact found (-1) 0 (by decide) (by rw [row, Int.add_zero]) (straight (by omega))
  · refine found (-1) 0 (by decide) (by rw [row, Int.add_zero]) ?_
    rw [ends.1]
    exact column?_before_first joined ends.2
  · refine found 1 0 (by decide) (by rw [row, Int.add_zero]) ?_
    rw [show (site.x.val : Int) + 1 = size.width by omega]
    exact column?_after_last joined ends.1

end Window
end FallingSand
