import FallingSand.Grid.Site

/-!
# Edges and windows

Above and below, a grid ends at walls.  Its left and right edges are walls too, or joined to each
other.  A window is the part of a grid that can be reached: some rows of it under one kind of edge.
Positions resolve to sites of the window, and neighbors are found by resolving the positions around
a site.
-/

namespace FallingSand

/-- What lies beyond the left and right edges. -/
inductive Edge where
  /-- Nothing can pass. -/
  | wall
  /-- The opposite edge. -/
  | wrap
  deriving DecidableEq, Repr

/-- The part of a grid that can be reached. -/
structure Window where
  /-- What lies beyond the left and right edges. -/
  edge : Edge
  /-- The rows that can be reached. -/
  rows : Rows
  deriving DecidableEq, Repr

/-- The positions around the origin: below, right, above, left. -/
def orthogonal : List Position :=
  [⟨0, 1⟩, ⟨1, 0⟩, ⟨0, -1⟩, ⟨-1, 0⟩]

/-- The two positions diagonally ahead in a vertical direction, the one on the given side first. -/
def diagonals (direction side : Int) : List Position :=
  [⟨side, direction⟩, ⟨-side, direction⟩]

namespace Window

variable {size : Size}

/-- The window onto a whole grid. -/
def whole (size : Size) (edge : Edge) : Window where
  edge
  rows := size.rows

/-- The column at a coordinate. -/
def column? (window : Window) (size : Size) (x : Int) : Option (Fin size.width) :=
  match window.edge with
  | .wall => size.column? x
  | .wrap => some (size.wrappedColumn x)

/-- The site that a position stands for. -/
def resolve (window : Window) (position : Position) : Option (Site size) :=
  match size.row? position.y with
  | some y =>
      if window.rows.contains y then
        (window.column? size position.x).map fun x => ⟨x, y⟩
      else none
  | none => none

/-- The sites found in the given directions from a position, each once, and without the position
itself. -/
def around (window : Window) (offsets : List Position) (position : Position) :
    List (Site size) :=
  ((offsets.filterMap fun offset => window.resolve (position + offset)).filter
    fun site => site.position ≠ position).eraseDups

/-- The neighbors of a position. -/
def neighbors (window : Window) (position : Position) : List (Site size) :=
  window.around orthogonal position

end Window
end FallingSand
