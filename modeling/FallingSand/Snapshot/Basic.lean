import FallingSand.Grid

/-!
# Snapshots

A snapshot is a grid to be kept: its size, its tick, and a number for every cell, with a palette of
names that says which element a number stands for.  It can be loaded under another mod, where the
names count and not the numbers.
-/

namespace FallingSand

/-- A grid to be kept. -/
structure Snapshot where
  /-- Width of the grid. -/
  width : UInt32
  /-- Height of the grid. -/
  height : UInt32
  /-- Number of ticks behind the grid. -/
  tick : UInt64
  /-- Names of the elements. -/
  palette : Array String
  /-- For every cell, row by row, the place of its element in the palette. -/
  cells : Array UInt16
  deriving DecidableEq

namespace Snapshot

/-- The name of the element at a column and a row. -/
def nameAt? (snapshot : Snapshot) (x y : Nat) : Option String :=
  if snapshot.width.toNat ≤ x ∨ snapshot.height.toNat ≤ y then none
  else
    (snapshot.cells[y * snapshot.width.toNat + x]?).bind fun place =>
      snapshot.palette[place.toNat]?

/-- How many cells hold the number at which a name stands first in the palette. -/
def count (snapshot : Snapshot) (name : String) : Nat :=
  match snapshot.palette.findIdx? (· == name) with
  | some place => snapshot.cells.countP fun cell => cell.toNat == place
  | none => 0

/-- The elements that the names of the palette stand for. -/
def elements (snapshot : Snapshot) (table : ElementTable) : Except GridFault (Array ElementId) :=
  snapshot.palette.mapM fun name =>
    match table.idOf? name with
    | some id => .ok id
    | none => .error (.unknownElement name)

/-- The element that a number of a cell stands for. -/
def elementOf (elements : Array ElementId) (place : UInt16) : Except GridFault ElementId :=
  match elements[place.toNat]? with
  | some id => .ok id
  | none => .error (.unknownElement ("#" ++ toString place.toNat))

end Snapshot

namespace Grid

/-- The snapshot of a grid. -/
def snapshot (grid : Grid) (table : ElementTable) : Snapshot where
  width := UInt32.ofNat grid.size.width
  height := UInt32.ofNat grid.size.height
  tick := grid.tick
  palette := table.names
  cells := grid.board.cells.toArray.map fun cell => cell.element.index

/-- The grid that a snapshot describes, with walls for edges and no marks on its cells. -/
def ofSnapshot (table : ElementTable) (snapshot : Snapshot) : Except GridFault Grid :=
  let invalid := .error (.invalidDimensions snapshot.width.toNat snapshot.height.toNat)
  match Size.ofNats? snapshot.width.toNat snapshot.height.toNat with
  | none => invalid
  | some size =>
      if full : snapshot.cells.size = size.area then do
        let elements ← snapshot.elements table
        let cells ← (Vector.mk snapshot.cells full).mapM (Snapshot.elementOf elements)
        let board : Board size := { cells := cells.map Cell.ofElement }
        return { size, edge := .wall, tick := snapshot.tick, board }
      else invalid

end Grid

end FallingSand
