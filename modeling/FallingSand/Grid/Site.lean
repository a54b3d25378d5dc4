/-!
# Sizes, positions and sites

A grid has a width and a height, both positive, and not too many cells.  A position is any pair of
coordinates, row zero at the top; a site is a position of the grid.  Sites are numbered row by row,
and different sites have different numbers.
-/

namespace FallingSand

/-- The greatest number of cells of a grid. -/
def maxArea : Nat := 2147483647

/-- The extent of a grid. -/
structure Size where
  /-- Number of columns. -/
  width : Nat
  /-- Number of rows. -/
  height : Nat
  /-- There is a column. -/
  width_pos : 0 < width
  /-- There is a row. -/
  height_pos : 0 < height
  /-- There are not too many cells. -/
  area_le : width * height ≤ maxArea
  deriving DecidableEq

namespace Size

/-- Number of cells. -/
def area (size : Size) : Nat :=
  size.width * size.height

theorem width_le (size : Size) : size.width ≤ maxArea :=
  Nat.le_trans (Nat.le_mul_of_pos_right _ size.height_pos) size.area_le

theorem height_le (size : Size) : size.height ≤ maxArea :=
  Nat.le_trans (Nat.le_mul_of_pos_left _ size.width_pos) size.area_le

/-- The size with the given width and height, if there is one. -/
def ofNats? (width height : Nat) : Option Size :=
  if valid : 0 < width ∧ 0 < height ∧ width * height ≤ maxArea then
    some ⟨width, height, valid.1, valid.2.1, valid.2.2⟩
  else none

end Size

/-- A pair of coordinates, inside or outside of a grid. -/
structure Position where
  /-- Column, counted from the left. -/
  x : Int
  /-- Row, counted from the top. -/
  y : Int
  deriving DecidableEq, Repr

namespace Position

instance : Add Position where
  add first second := ⟨first.x + second.x, first.y + second.y⟩

@[simp]
theorem add_x (first second : Position) : (first + second).x = first.x + second.x := rfl

@[simp]
theorem add_y (first second : Position) : (first + second).y = first.y + second.y := rfl

end Position

/-- A position of a grid. -/
structure Site (size : Size) where
  /-- Column, counted from the left. -/
  x : Fin size.width
  /-- Row, counted from the top. -/
  y : Fin size.height
  deriving DecidableEq

namespace Site

variable {size : Size}

/-- The coordinates of a site. -/
def position (site : Site size) : Position where
  x := site.x.val
  y := site.y.val

theorem position_injective {first second : Site size} (same : first.position = second.position) :
    first = second := by
  cases first
  cases second
  simp only [position, Position.mk.injEq, Int.natCast_inj] at same
  simp only [mk.injEq]
  exact ⟨Fin.ext same.1, Fin.ext same.2⟩

theorem number_lt (site : Site size) : site.y.val * size.width + site.x.val < size.area := by
  have row : (site.y.val + 1) * size.width ≤ size.height * size.width :=
    Nat.mul_le_mul_right _ site.y.isLt
  have column := site.x.isLt
  rw [Nat.add_mul] at row
  rw [Size.area, Nat.mul_comm size.width]
  omega

/-- The number of a site, counting row by row. -/
def number (site : Site size) : Fin size.area :=
  ⟨site.y.val * size.width + site.x.val, site.number_lt⟩

@[simp]
theorem number_val (site : Site size) :
    site.number.val = site.y.val * size.width + site.x.val := rfl

theorem number_mod (site : Site size) : site.number.val % size.width = site.x.val := by
  simp [Nat.mod_eq_of_lt site.x.isLt]

theorem number_div (site : Site size) : site.number.val / size.width = site.y.val := by
  rw [number_val, Nat.add_comm, Nat.add_mul_div_right _ _ size.width_pos,
    Nat.div_eq_of_lt site.x.isLt, Nat.zero_add]

theorem number_injective {first second : Site size} (same : first.number = second.number) :
    first = second := by
  have column : first.x = second.x := by
    apply Fin.ext
    rw [← number_mod first, same, number_mod]
  have row : first.y = second.y := by
    apply Fin.ext
    rw [← number_div first, same, number_div]
  cases first
  cases second
  simp_all

end Site

/-! ## Rows -/

/-- A run of consecutive rows. -/
structure Rows where
  /-- The first row. -/
  first : Nat
  /-- The row after the last. -/
  stop : Nat
  deriving DecidableEq, Repr

namespace Rows

/-- How many rows there are. -/
def count (rows : Rows) : Nat :=
  rows.stop - rows.first

/-- Whether a row is one of them. -/
def contains (rows : Rows) (y : Nat) : Bool :=
  rows.first ≤ y && y < rows.stop

/-- One row more on each side, inside a grid of the given height. -/
def widen (height : Nat) (rows : Rows) : Rows where
  first := rows.first - 1
  stop := min (rows.stop + 1) height

@[simp]
theorem contains_iff (rows : Rows) (y : Nat) :
    rows.contains y = true ↔ rows.first ≤ y ∧ y < rows.stop := by
  simp [contains]

end Rows

namespace Size

/-- All rows of a grid. -/
def rows (size : Size) : Rows where
  first := 0
  stop := size.height

/-- The row at a coordinate. -/
def row? (size : Size) (y : Int) : Option (Fin size.height) :=
  if inside : 0 ≤ y ∧ y < size.height then some ⟨y.toNat, by omega⟩ else none

/-- The column at a coordinate. -/
def column? (size : Size) (x : Int) : Option (Fin size.width) :=
  if inside : 0 ≤ x ∧ x < size.width then some ⟨x.toNat, by omega⟩ else none

/-- The column at a coordinate when the columns repeat. -/
def wrappedColumn (size : Size) (x : Int) : Fin size.width :=
  have := size.width_pos
  have := Int.emod_nonneg x (b := size.width) (by omega)
  have := Int.emod_lt_of_pos x (b := size.width) (by omega)
  ⟨(x % size.width).toNat, by omega⟩

/-- The site at a position. -/
def site? (size : Size) (position : Position) : Option (Site size) := do
  let x ← size.column? position.x
  let y ← size.row? position.y
  return ⟨x, y⟩

/-- The sites of a row. -/
def sitesOfRow (size : Size) (y : Fin size.height) : List (Site size) :=
  (List.finRange size.width).map fun x => ⟨x, y⟩

/-- The sites of a column. -/
def sitesOfColumn (size : Size) (x : Fin size.width) : List (Site size) :=
  (List.finRange size.height).map fun y => ⟨x, y⟩

/-- The sites of some rows, row by row. -/
def sites (size : Size) (rows : Rows) : List (Site size) :=
  ((List.finRange size.height).filter fun y => rows.contains y.val).flatMap size.sitesOfRow

theorem mem_sites {size : Size} {rows : Rows} {site : Site size} :
    site ∈ size.sites rows ↔ rows.contains site.y = true := by
  cases site with
  | mk x y => simp [sites, sitesOfRow]

end Size
end FallingSand
