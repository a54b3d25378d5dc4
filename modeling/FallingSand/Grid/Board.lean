import FallingSand.Element
import FallingSand.Grid.Site

/-!
# Boards of cells

A cell holds an element and marks, two of which remember whether it has moved or reacted in the
phase under way.  A board has a cell for every site of a size.
-/

namespace FallingSand

/-- The content of a site. -/
structure Cell where
  /-- The element, `Empty` for an unoccupied cell. -/
  element : ElementId
  /-- Whether the cell has moved. -/
  moved : Bool
  /-- Whether the cell has taken part in a reaction. -/
  reacted : Bool
  /-- Further marks, which no phase looks at. -/
  spare : BitVec 6
  deriving DecidableEq

namespace Cell

/-- A fresh cell. -/
def ofElement (element : ElementId) : Cell where
  element
  moved := false
  reacted := false
  spare := 0

/-- An unoccupied cell. -/
def empty : Cell := ofElement ElementId.empty

/-- A cell that a reaction has just written. -/
def ofReacted (element : ElementId) : Cell where
  element
  moved := false
  reacted := true
  spare := 0

/-- Whether the cell is unoccupied. -/
def isEmpty (cell : Cell) : Bool :=
  cell.element.isEmpty

/-- The cell after a move. -/
def markMoved (cell : Cell) : Cell :=
  { cell with moved := true }

/-- The cell before it moved. -/
def clearMoved (cell : Cell) : Cell :=
  { cell with moved := false }

/-- The cell before it reacted. -/
def clearReacted (cell : Cell) : Cell :=
  { cell with reacted := false }

/-! ### Marks as bits -/

/-- A cell whose marks are the bits of a byte: the lowest tells whether it has moved, and the next
one whether it has reacted. -/
def ofMarks (element : ElementId) (marks : BitVec 8) : Cell where
  element
  moved := marks.getLsbD 0
  reacted := marks.getLsbD 1
  spare := (marks >>> 2).setWidth 6

/-- The byte whose bits are the marks. -/
def marks (cell : Cell) : BitVec 8 :=
  cell.spare.setWidth 8 <<< 2 ||| (BitVec.ofBool cell.reacted).setWidth 8 <<< 1 |||
    (BitVec.ofBool cell.moved).setWidth 8

/-- The cell with more marks. -/
def mark (cell : Cell) (more : BitVec 8) : Cell :=
  ofMarks cell.element (cell.marks ||| more)

end Cell

/-- A cell for every site. -/
structure Board (size : Size) where
  /-- The cells in the order of their sites. -/
  cells : Vector Cell size.area
  deriving DecidableEq

namespace Board

variable {size : Size}

/-- A board of unoccupied cells. -/
def empty (size : Size) : Board size where
  cells := Vector.replicate size.area Cell.empty

/-- The cell at a site. -/
def cell (board : Board size) (site : Site size) : Cell :=
  board.cells[site.number]

/-- Replace the cell at a site. -/
def put (board : Board size) (site : Site size) (cell : Cell) : Board size where
  cells := board.cells.set site.number.val cell site.number.isLt

/-- Exchange the cells at two sites. -/
def exchange (board : Board size) (first second : Site size) : Board size :=
  let cell := board.cell first
  (board.put first (board.cell second)).put second cell

theorem cell_put (board : Board size) (site other : Site size) (cell : Cell) :
    (board.put site cell).cell other = if other = site then cell else board.cell other := by
  have distinct : site.number.val = other.number.val ↔ other = site := by
    constructor
    · intro same
      exact (Site.number_injective (Fin.ext same)).symm
    · intro same
      rw [same]
  simp only [Board.cell, put, Fin.getElem_fin, Vector.getElem_set, distinct]

@[simp]
theorem cell_put_self (board : Board size) (site : Site size) (cell : Cell) :
    (board.put site cell).cell site = cell := by
  simp [cell_put]

theorem cell_put_of_ne (board : Board size) {site other : Site size} (cell : Cell)
    (distinct : other ≠ site) : (board.put site cell).cell other = board.cell other := by
  simp [cell_put, distinct]

theorem cell_exchange (board : Board size) (first second other : Site size) :
    (board.exchange first second).cell other =
      if other = second then board.cell first
      else if other = first then board.cell second
      else board.cell other := by
  simp only [exchange, cell_put]

theorem cell_exchange_second (board : Board size) (first second : Site size) :
    (board.exchange first second).cell second = board.cell first := by
  rw [cell_exchange, if_pos rfl]

theorem exists_origin_exchange (board : Board size) (first second site : Site size) :
    ∃ origin, (board.exchange first second).cell site = board.cell origin := by
  rw [cell_exchange]
  split
  · exact ⟨first, rfl⟩
  · split
    · exact ⟨second, rfl⟩
    · exact ⟨site, rfl⟩

theorem exists_origin_markMoved (board : Board size) (marked site : Site size) :
    ∃ origin, ((board.put marked (board.cell marked).markMoved).cell site).element =
      (board.cell origin).element := by
  rw [cell_put]
  split
  · exact ⟨marked, rfl⟩
  · exact ⟨site, rfl⟩

/-- Put the same cell at all given sites. -/
def fill (board : Board size) (sites : List (Site size)) (cell : Cell) : Board size :=
  sites.foldl (fun board site => board.put site cell) board

theorem cell_fill (board : Board size) (sites : List (Site size)) (cell : Cell)
    (site : Site size) :
    (board.fill sites cell).cell site = if site ∈ sites then cell else board.cell site := by
  induction sites generalizing board with
  | nil => simp [fill]
  | cons first sites induction =>
      have step : board.fill (first :: sites) cell = (board.put first cell).fill sites cell := rfl
      rw [step, induction, cell_put]
      by_cases later : site ∈ sites <;> by_cases same : site = first <;> simp [later, same]

/-- How many cells hold an element. -/
def count (board : Board size) (element : ElementId) : Nat :=
  board.cells.toArray.countP fun cell => cell.element == element

end Board
end FallingSand
