import FallingSand.Proofs.Tick.Workers

/-!
# Strips of cells

A tick works on the cells of a window as they lie in memory, one row after the other.  A position
is turned into an address by arithmetic on machine words, and an address has to be one of the cells.
Here every result of such arithmetic and every address is checked, and for the windows of a grid no
check fails.
-/

namespace FallingSand

/-- A machine word: a number that is not too small and not too large for it. -/
def word? (value : Int) : Option Int :=
  if -2147483648 ≤ value ∧ value ≤ 2147483647 then some value else none

theorem word?_natCast {value : Nat} (small : value ≤ maxArea) :
    word? value = some (value : Int) := by
  rw [maxArea] at small
  exact if_pos ⟨by omega, by omega⟩

namespace Position

/-- The position beside another one. -/
def shift? (position offset : Position) : Option Position := do
  let x ← word? (position.x + offset.x)
  let y ← word? (position.y + offset.y)
  return ⟨x, y⟩

/-- The offset leads at most one column and one row away. -/
structure Near (offset : Position) : Prop where
  /-- It leads at most one column away. -/
  x : offset.x = 0 ∨ offset.x = 1 ∨ offset.x = -1
  /-- It leads at most one row away. -/
  y : offset.y = 0 ∨ offset.y = 1 ∨ offset.y = -1

/-- What is next to a site has words for coordinates, on the grid or beyond it. -/
theorem shift?_position {size : Size} (site : Site size) {offset : Position} (near : offset.Near) :
    site.position.shift? offset = some (site.position + offset) := by
  have column := site.x.isLt
  have row := site.y.isLt
  have width := size.width_le
  have height := size.height_le
  obtain ⟨across, along⟩ := near
  rw [maxArea] at width height
  have x : word? (site.position.x + offset.x) = some (site.position.x + offset.x) := by
    simp only [Site.position]
    exact if_pos ⟨by omega, by omega⟩
  have y : word? (site.position.y + offset.y) = some (site.position.y + offset.y) := by
    simp only [Site.position]
    exact if_pos ⟨by omega, by omega⟩
  rw [shift?, x, y]
  rfl

end Position

/-! ## Strips -/

/-- The cells of some rows of a grid, one row after the other. -/
structure Strip where
  /-- The cells. -/
  cells : List Cell
  /-- Number of columns of the grid. -/
  width : Int
  /-- Number of rows of the grid. -/
  height : Int
  /-- The first of the rows. -/
  first : Int
  /-- The row after the last. -/
  stop : Int
  /-- What lies beyond the left and right edges. -/
  edge : Edge

namespace Strip

/-- The strip of the cells that begin with a row. -/
def ofCells? (cells : List Cell) (width height first : Nat) (edge : Edge) : Option Strip := do
  let columns ← word? width
  let bottom ← word? height
  let top ← word? first
  let rows ← word? (cells.length / max width 1 : Nat)
  let stop ← word? (top + rows)
  return { cells, width := columns, height := bottom, first := top, stop, edge }

/-- The column at a coordinate. -/
def column? (strip : Strip) (x : Int) : Option Int :=
  match strip.edge with
  | .wall => if 0 ≤ x ∧ x < strip.width then some x else none
  | .wrap => some (x % strip.width)

/-- The position of a cell that a position stands for. -/
def resolve (strip : Strip) (position : Position) : Option Position :=
  if 0 ≤ position.y ∧ position.y < strip.height then
    if strip.first ≤ position.y ∧ position.y < strip.stop then
      (strip.column? position.x).map fun x => ⟨x, position.y⟩
    else none
  else none

/-- The address of the cell at a position. -/
def address? (strip : Strip) (position : Position) : Option Nat := do
  let down ← word? (position.y - strip.first)
  let start ← word? (down * strip.width)
  let address ← word? (start + position.x)
  if 0 ≤ address ∧ address < strip.cells.length then some address.toNat else none

/-- The cell at a position. -/
def read? (strip : Strip) (position : Position) : Option Cell := do
  let address ← strip.address? position
  strip.cells[address]?

/-- Replace the cell at a position. -/
def write? (strip : Strip) (position : Position) (cell : Cell) : Option Strip := do
  let address ← strip.address? position
  return { strip with cells := strip.cells.set address cell }

/-- Mark the cell at a position as moved. -/
def mark? (strip : Strip) (position : Position) : Option Strip := do
  let address ← strip.address? position
  let cell ← strip.cells[address]?
  return { strip with cells := strip.cells.set address cell.markMoved }

/-- Exchange the cells at two positions. -/
def swap? (strip : Strip) (first second : Position) : Option Strip := do
  let one ← strip.address? first
  let other ← strip.address? second
  let cell ← strip.cells[one]?
  let replaced ← strip.cells[other]?
  return { strip with cells := (strip.cells.set one replaced).set other cell }

/-- The positions of some rows, row by row. -/
def positions? (strip : Strip) (rows : Rows) : Option (List Position) := do
  let first ← word? rows.first
  let stop ← word? rows.stop
  return (List.range (stop - first).toNat).flatMap fun down : Nat =>
    (List.range strip.width.toNat).map fun right : Nat => ⟨right, first + down⟩

end Strip

/-! ## The strip of a window -/

variable {size : Size} {window : Window} {rows : Rows} {site : Site size} {board : Board size}

/-- The rows are rows of the grid, in their order. -/
structure Rows.Inside (size : Size) (rows : Rows) : Prop where
  /-- They do not end before they begin. -/
  forward : rows.first ≤ rows.stop
  /-- The last of them is a row of the grid. -/
  stop_le : rows.stop ≤ size.height

namespace Board

/-- The strip of a window. -/
def strip (board : Board size) (window : Window) : Strip where
  cells := board.slice window.rows
  width := size.width
  height := size.height
  first := window.rows.first
  stop := window.rows.stop
  edge := window.edge

theorem length_slice (inside : rows.Inside size) (board : Board size) :
    (board.slice rows).length = rows.count * size.width := by
  have bottom : rows.stop * size.width ≤ size.height * size.width :=
    Nat.mul_le_mul_right _ inside.stop_le
  have whole : size.area = size.height * size.width := Nat.mul_comm _ _
  rw [slice, Rows.slice, List.length_take, List.length_drop, Vector.length_toList, whole,
    Rows.count, Nat.sub_mul]
  omega

end Board

namespace Rows

/-- Where the cell of a site lies among the cells of some rows. -/
def address (rows : Rows) (site : Site size) : Nat :=
  (site.y.val - rows.first) * size.width + site.x.val

theorem first_add_address (contained : rows.contains site.y = true) :
    rows.first * size.width + rows.address site = site.number.val := by
  obtain ⟨begin, -⟩ := (contains_iff _ _).mp contained
  rw [address, ← Nat.add_assoc, ← Nat.add_mul, Nat.add_sub_cancel' begin, Site.number_val]

theorem address_lt (contained : rows.contains site.y = true) :
    rows.address site < rows.count * size.width := by
  obtain ⟨begin, stop⟩ := (contains_iff _ _).mp contained
  have row : (site.y.val - rows.first + 1) * size.width ≤ rows.count * size.width :=
    Nat.mul_le_mul_right _ (by rw [count]; omega)
  have column := site.x.isLt
  rw [Nat.add_mul] at row
  rw [address]
  omega

/-- Different sites have different addresses. -/
theorem address_injective {other : Site size} (contained : rows.contains site.y = true)
    (otherContained : rows.contains other.y = true)
    (same : rows.address site = rows.address other) :
    site = other := by
  refine Site.number_injective (Fin.ext ?_)
  rw [← first_add_address contained, ← first_add_address otherContained, same]

end Rows

namespace Board

theorem getElem?_slice (contained : rows.contains site.y = true) :
    (board.slice rows)[rows.address site]? = some (board.cell site) := by
  have place := Rows.address_lt contained
  rw [Rows.count] at place
  rw [slice, Rows.slice, List.getElem?_take, if_pos place, List.getElem?_drop,
    Rows.first_add_address contained]
  simp [Board.cell]

theorem slice_put (contained : rows.contains site.y = true) (cell : Cell) :
    (board.put site cell).slice rows = (board.slice rows).set (rows.address site) cell := by
  have back := Rows.first_add_address contained
  have cells : (board.put site cell).cells.toList = board.cells.toList.set site.number cell :=
    Vector.toList_set site.number.isLt
  rw [slice, Rows.slice, cells, List.drop_set, if_neg (by omega), List.take_set, slice, Rows.slice]
  congr 1
  omega

end Board

/-! ## Nothing fails on the strip of a window -/

namespace Strip

theorem ofCells?_slice (inside : rows.Inside size) (board : Board size) (edge : Edge) :
    ofCells? (board.slice rows) size.width size.height rows.first edge =
      some (board.strip ⟨edge, rows⟩) := by
  have width := size.width_le
  have height := size.height_le
  have forward := inside.forward
  have bottom := inside.stop_le
  have count : (board.slice rows).length / max size.width 1 = rows.count := by
    rw [Board.length_slice inside, Nat.max_eq_left size.width_pos,
      Nat.mul_div_cancel _ size.width_pos]
  have stop : (rows.first : Int) + (rows.count : Nat) = (rows.stop : Nat) := by
    rw [Rows.count]
    omega
  rw [ofCells?, count, word?_natCast width, word?_natCast height,
    word?_natCast (by omega : rows.first ≤ maxArea),
    word?_natCast (by rw [Rows.count]; omega : rows.count ≤ maxArea)]
  simp only [Option.bind_eq_bind, Option.bind_some]
  rw [stop, word?_natCast (by omega : rows.stop ≤ maxArea)]
  rfl

theorem column?_strip (x : Int) :
    (board.strip window).column? x =
      (window.column? size x).map fun column => (column.val : Int) := by
  rw [column?, Window.column?]
  cases edge : window.edge with
  | wall =>
      simp only [Board.strip, edge, Size.column?]
      split
      · exact congrArg some (Int.toNat_of_nonneg (And.left ‹_›)).symm
      · rfl
  | wrap =>
      simp only [Board.strip, edge, Option.map_some, Size.wrappedColumn_val]

/-- A strip finds what the window finds. -/
theorem resolve_strip (position : Position) :
    (board.strip window).resolve position =
      (window.resolve position : Option (Site size)).map Site.position := by
  rw [resolve, column?_strip, Window.resolve, Size.row?]
  by_cases row : 0 ≤ position.y ∧ position.y < size.height
  · have nat : (position.y.toNat : Int) = position.y := Int.toNat_of_nonneg row.1
    have same : ((window.rows.first : Int) ≤ position.y ∧ position.y < (window.rows.stop : Int)) ↔
        window.rows.contains position.y.toNat = true := by
      rw [Rows.contains_iff]
      omega
    have bounds : 0 ≤ position.y ∧ position.y < (board.strip window).height := row
    rw [dif_pos row, if_pos bounds]
    dsimp only
    by_cases contained : window.rows.contains position.y.toNat = true
    · rw [if_pos contained]
      have between : (board.strip window).first ≤ position.y ∧
          position.y < (board.strip window).stop := same.mpr contained
      rw [if_pos between, Option.map_map, Option.map_map]
      refine Option.map_congr fun column _ => ?_
      simp only [Function.comp_apply, Site.position, nat]
    · rw [if_neg contained]
      have beyond : ¬((board.strip window).first ≤ position.y ∧
          position.y < (board.strip window).stop) := fun between => contained (same.mp between)
      rw [if_neg beyond]
      rfl
  · have bounds : ¬(0 ≤ position.y ∧ position.y < (board.strip window).height) := row
    rw [dif_neg row, if_neg bounds]
    rfl

section Addresses

variable (inside : window.rows.Inside size) (contained : window.rows.contains site.y = true)

include inside contained

/-- The address of a site is made of words and is that of one of the cells. -/
theorem address?_position :
    (board.strip window).address? site.position = some (window.rows.address site) := by
  obtain ⟨begin, -⟩ := (Rows.contains_iff _ _).mp contained
  have place := Rows.address_lt contained
  have cells := board.length_slice inside
  have few : window.rows.count * size.width ≤ maxArea :=
    calc
      window.rows.count * size.width ≤ size.height * size.width := by
        refine Nat.mul_le_mul_right _ ?_
        have bottom := inside.stop_le
        rw [Rows.count]
        omega
      _ = size.width * size.height := Nat.mul_comm _ _
      _ ≤ maxArea := size.area_le
  have row := site.y.isLt
  have height := size.height_le
  have down : site.position.y - (board.strip window).first =
      (site.y.val - window.rows.first : Nat) := by
    simp only [Site.position, Board.strip]
    omega
  have start : ((site.y.val - window.rows.first : Nat) : Int) * (board.strip window).width =
      ((site.y.val - window.rows.first) * size.width : Nat) := (Int.natCast_mul _ _).symm
  have address : (((site.y.val - window.rows.first) * size.width : Nat) : Int) + site.position.x =
      (window.rows.address site : Nat) := (Int.natCast_add _ _).symm
  have length : (board.strip window).cells.length = window.rows.count * size.width := cells
  rw [address?, down, word?_natCast (by omega)]
  simp only [Option.bind_eq_bind, Option.bind_some]
  rw [start, word?_natCast (by rw [Rows.address] at place; omega), Option.bind_some, address,
    word?_natCast (by omega), Option.bind_some, length, if_pos ⟨by omega, by omega⟩,
    Int.toNat_natCast]

theorem read?_position :
    (board.strip window).read? site.position = some (board.cell site) := by
  rw [read?, address?_position inside contained]
  exact Board.getElem?_slice contained

theorem write?_position (cell : Cell) :
    (board.strip window).write? site.position cell =
      some ((board.put site cell).strip window) := by
  rw [write?, address?_position inside contained, Board.strip, Board.strip,
    Board.slice_put contained]
  rfl

theorem mark?_position :
    (board.strip window).mark? site.position =
      some ((board.put site (board.cell site).markMoved).strip window) := by
  have cell : (board.strip window).cells[window.rows.address site]? = some (board.cell site) :=
    Board.getElem?_slice contained
  rw [mark?, address?_position inside contained]
  simp only [Option.bind_eq_bind, Option.bind_some, cell]
  rw [Board.strip, Board.strip, Board.slice_put contained]
  rfl

theorem swap?_position {other : Site size} (otherContained : window.rows.contains other.y = true) :
    (board.strip window).swap? site.position other.position =
      some ((board.exchange site other).strip window) := by
  have cell : (board.strip window).cells[window.rows.address site]? = some (board.cell site) :=
    Board.getElem?_slice contained
  have replaced : (board.strip window).cells[window.rows.address other]? =
      some (board.cell other) := Board.getElem?_slice otherContained
  rw [swap?, address?_position inside contained, address?_position inside otherContained]
  simp only [Option.bind_eq_bind, Option.bind_some, cell, replaced]
  rw [Board.exchange, Board.strip, Board.strip, Board.slice_put otherContained,
    Board.slice_put contained]
  rfl

end Addresses

/-- Different positions of a strip have different addresses. -/
def Distinct (strip : Strip) : Prop :=
  ∀ {first second : Position}, strip.resolve first = some first →
    strip.resolve second = some second → strip.address? first = strip.address? second →
      first = second

theorem distinct_strip (inside : window.rows.Inside size) (board : Board size) :
    (board.strip window).Distinct := by
  intro first second one other same
  rw [resolve_strip] at one other
  obtain ⟨site, found, rfl⟩ := Option.map_eq_some_iff.mp one
  obtain ⟨next, foundNext, rfl⟩ := Option.map_eq_some_iff.mp other
  have contained := Window.contains_of_resolve found
  have nextContained := Window.contains_of_resolve foundNext
  rw [address?_position inside contained, address?_position inside nextContained] at same
  rw [Rows.address_injective contained nextContained (Option.some.inj same)]

end Strip

/-! ## The positions of rows -/

theorem filter_contains_range {height : Nat} (forward : rows.first ≤ rows.stop)
    (bottom : rows.stop ≤ height) :
    (List.range height).filter rows.contains = (List.range rows.count).map (rows.first + ·) := by
  have parts : List.range height = List.range' 0 rows.first ++
      (List.range' rows.first rows.count ++ List.range' rows.stop (height - rows.stop)) := by
    have middle : rows.first + rows.count = rows.stop := Nat.add_sub_cancel' forward
    have below : rows.count + (height - rows.stop) = height - rows.first := by
      rw [Rows.count]
      omega
    have top : 0 + rows.first = rows.first := Nat.zero_add _
    have last : List.range' rows.first rows.count ++ List.range' rows.stop (height - rows.stop) =
        List.range' rows.first (height - rows.first) := by
      rw [← middle, List.range'_append_1, middle, below]
    have whole : List.range' 0 rows.first ++ List.range' (0 + rows.first) (height - rows.first) =
        List.range' 0 (rows.first + (height - rows.first)) := List.range'_append_1
    rw [top, Nat.add_sub_cancel' (forward.trans bottom)] at whole
    rw [last, whole, List.range_eq_range']
  have beyond {start count : Nat} (outside : start + count ≤ rows.first ∨ rows.stop ≤ start) :
      (List.range' start count).filter rows.contains = [] := by
    refine List.filter_eq_nil_iff.mpr fun y listed => ?_
    have bounds := List.mem_range'_1.mp listed
    rw [Rows.contains_iff]
    omega
  have between : (List.range' rows.first rows.count).filter rows.contains =
      List.range' rows.first rows.count := by
    refine List.filter_eq_self.mpr fun y listed => ?_
    have bounds := List.mem_range'_1.mp listed
    rw [Rows.count] at bounds
    rw [Rows.contains_iff]
    omega
  rw [parts, List.filter_append, List.filter_append, beyond (Or.inl (Nat.zero_add _).le), between,
    beyond (Or.inr (Nat.le_refl _)), List.nil_append, List.append_nil, List.range'_eq_map_range]

/-- The positions of rows are those of their sites, in the same order. -/
theorem Strip.positions?_strip (inside : rows.Inside size) :
    (board.strip window).positions? rows = some ((size.sites rows).map Site.position) := by
  have height := size.height_le
  have forward := inside.forward
  have bottom := inside.stop_le
  have row (y : Fin size.height) : (size.sitesOfRow y).map Site.position =
      (List.range size.width).map fun right : Nat => ⟨right, y.val⟩ := by
    rw [Size.sitesOfRow, List.map_map, ← List.map_coe_finRange_eq_range, List.map_map]
    rfl
  have rowsOf : ((List.finRange size.height).filter fun y => rows.contains y.val).map Fin.val =
      (List.range rows.count).map (rows.first + ·) := by
    rw [← filter_contains_range inside.forward inside.stop_le, ← List.map_coe_finRange_eq_range,
      List.filter_map]
    rfl
  have width : (board.strip window).width.toNat = size.width := Int.toNat_natCast _
  have count : ((rows.stop : Int) - (rows.first : Int)).toNat = rows.count := by
    rw [Rows.count]
    omega
  rw [positions?, word?_natCast (by omega : rows.first ≤ maxArea),
    word?_natCast (by omega : rows.stop ≤ maxArea)]
  simp only [Option.bind_eq_bind, Option.bind_some, count, width]
  refine congrArg some ?_
  calc
    _ = ((List.range rows.count).map (rows.first + ·)).flatMap fun y : Nat =>
          (List.range size.width).map fun right : Nat => (⟨right, y⟩ : Position) := by
      simp only [List.flatMap_map, Int.natCast_add]
    _ = (size.sites rows).map Site.position := by
      rw [← rowsOf, List.flatMap_map, Size.sites, List.map_flatMap]
      exact List.flatMap_congr fun y _ => (row y).symm

end FallingSand
