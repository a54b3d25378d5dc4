import FallingSand.Grid.Board
import FallingSand.Grid.Window

/-!
# Grids

A grid is a board of cells with its kind of edge and the number of ticks behind it.  Painting
happens at positions; it either succeeds as a whole or leaves the grid as it is.
-/

namespace FallingSand

/-- What can be wrong with a grid or with painting on it. -/
inductive GridFault where
  /-- A grid cannot have that width and height. -/
  | invalidDimensions (width height : Nat)
  /-- A position is not on the grid. -/
  | outOfBounds (position : Position)
  /-- No element has that name. -/
  | unknownElement (name : String)
  deriving DecidableEq

namespace GridFault

/-- The wording of a fault. -/
def message : GridFault → String
  | invalidDimensions width height =>
      "invalid grid dimensions " ++ toString width ++ "x" ++ toString height
  | outOfBounds position =>
      "position (" ++ toString position.x ++ ", " ++ toString position.y ++
        ") is outside the grid"
  | unknownElement name => "unknown element `" ++ name ++ "`"

end GridFault

/-- A grid of cells. -/
structure Grid where
  /-- Its extent. -/
  size : Size
  /-- What lies beyond its left and right edges. -/
  edge : Edge
  /-- Number of ticks that have passed. -/
  tick : UInt64
  /-- Its cells. -/
  board : Board size

namespace Grid

/-- An unoccupied grid. -/
def create (width height : Nat) (edge : Edge) : Except GridFault Grid :=
  match Size.ofNats? width height with
  | some size => .ok { size, edge, tick := 0, board := Board.empty size }
  | none => .error (.invalidDimensions width height)

/-- The site at a position of the grid. -/
def site (grid : Grid) (position : Position) : Except GridFault (Site grid.size) :=
  match grid.size.site? position with
  | some site => .ok site
  | none => .error (.outOfBounds position)

/-- The cell at a position. -/
def cell? (grid : Grid) (position : Position) : Option Cell :=
  (grid.size.site? position).map grid.board.cell

/-- Put a fresh cell of an element at every given site. -/
def fill (grid : Grid) (sites : List (Site grid.size)) (element : ElementId) : Grid :=
  { grid with board := grid.board.fill sites (Cell.ofElement element) }

/-- Paint one cell. -/
def set (grid : Grid) (position : Position) (element : ElementId) : Except GridFault Grid := do
  let site ← grid.site position
  return grid.fill [site] element

/-- Paint one cell with a named element. -/
def paint (grid : Grid) (table : ElementTable) (position : Position) (name : String) :
    Except GridFault Grid :=
  match table.idOf? name with
  | some element => grid.set position element
  | none => .error (.unknownElement name)

/-- The sites of a rectangle, row by row. -/
def rectangle (size : Size) (corner : Position) (width height : Nat) : List (Site size) :=
  (List.range height).flatMap fun down =>
    (List.range width).filterMap fun right => size.site? (corner + ⟨right, down⟩)

/-- Paint a rectangle given by its upper left corner, its width and its height.  A rectangle
without cells may lie anywhere; any other has to have its corners on the grid. -/
def fillRectangle (grid : Grid) (corner : Position) (width height : Int) (element : ElementId) :
    Except GridFault Grid :=
  if width ≤ 0 ∨ height ≤ 0 then .ok grid
  else do
    let _ ← grid.site corner
    let _ ← grid.site (corner + ⟨width - 1, height - 1⟩)
    return grid.fill (rectangle grid.size corner width.toNat height.toNat) element

/-- Paint a whole row. -/
def fillRow (grid : Grid) (y : Int) (element : ElementId) : Except GridFault Grid :=
  grid.fillRectangle ⟨0, y⟩ grid.size.width 1 element

/-- Leave every cell unoccupied. -/
def clear (grid : Grid) : Grid :=
  { grid with board := Board.empty grid.size }

/-- How many cells hold an element. -/
def count (grid : Grid) (element : ElementId) : Nat :=
  grid.board.count element

/-- The elements of a row. -/
def row (grid : Grid) (y : Fin grid.size.height) : List ElementId :=
  (grid.size.sitesOfRow y).map fun site => (grid.board.cell site).element

/-- The elements of a column. -/
def column (grid : Grid) (x : Fin grid.size.width) : List ElementId :=
  (grid.size.sitesOfColumn x).map fun site => (grid.board.cell site).element

end Grid
end FallingSand
