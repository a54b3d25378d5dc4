import FallingSand.Grid
import FallingSand.Ron.Decode

/-!
# Scenes

A scene says what to paint on a grid before the first tick, and may ask for a size of the grid.
Painting stops at the first operation that fails.
-/

namespace FallingSand

open Ron (Value)

/-- An operation of painting. -/
inductive Paint where
  /-- Paint one cell. -/
  | cell (position : Position) (element : String)
  /-- Paint a rectangle, given by its upper left corner. -/
  | rectangle (corner : Position) (width height : Int) (element : String)
  /-- Paint a whole row. -/
  | row (y : Int) (element : String)
  deriving DecidableEq

/-- What to paint before the first tick. -/
structure Scene where
  /-- Width and height that the grid should have. -/
  size : Option (Nat × Nat)
  /-- The operations in order. -/
  paint : List Paint
  deriving DecidableEq

/-- Why painting stopped. -/
structure PaintFault where
  /-- Number of operations that succeeded. -/
  index : Nat
  /-- What the next one met with. -/
  fault : GridFault
  deriving DecidableEq

namespace PaintFault

/-- The wording of a fault. -/
def message (fault : PaintFault) : String :=
  match fault.fault with
  | .unknownElement name =>
      "Paint op " ++ toString fault.index ++ ": unknown element `" ++ name ++ "`"
  | _ => "Paint op " ++ toString fault.index ++ " failed"

/-- What caused the fault, if the wording does not say it. -/
def cause? (fault : PaintFault) : Option String :=
  match fault.fault with
  | .unknownElement _ => none
  | other => some other.message

end PaintFault

namespace Paint

/-- The element to paint with. -/
def element : Paint → String
  | cell _ element => element
  | rectangle _ _ _ element => element
  | row _ element => element

/-- Paint on a grid. -/
def applyTo (paint : Paint) (table : ElementTable) (grid : Grid) : Except GridFault Grid :=
  match table.idOf? paint.element with
  | none => .error (.unknownElement paint.element)
  | some id =>
      match paint with
      | cell position _ => grid.set position id
      | rectangle corner width height _ => grid.fillRectangle corner width height id
      | row y _ => grid.fillRow y id

/-- Apply operations in order, the first of which has the given number; gives the fault that
stopped it, if there is one, and the grid as it is then. -/
def applyAll (table : ElementTable) : (index : Nat) → List Paint → Grid →
    Option PaintFault × Grid
  | _, [], grid => (none, grid)
  | index, paint :: rest, grid =>
      match paint.applyTo table grid with
      | .ok painted => applyAll table (index + 1) rest painted
      | .error fault => (some ⟨index, fault⟩, grid)

/-- A coordinate or an extent has thirty-two bits. -/
def coordinate? (fields : List (String × Value)) (key : String) : Option Int :=
  Value.field? fields key (Value.integer? .int32)

/-- The operation that a value describes. -/
def ofValue? : Value → Option Paint
  | .record (some kind) fields => do
      let element ← Value.field? fields "element" Value.text?
      let y ← coordinate? fields "y"
      match kind with
      | "Cell" => return cell ⟨← coordinate? fields "x", y⟩ element
      | "Rect" =>
          return rectangle ⟨← coordinate? fields "x", y⟩ (← coordinate? fields "width")
            (← coordinate? fields "height") element
      | "Row" => return row y element
      | _ => none
  | _ => none

end Paint

namespace Scene

/-- Paint a scene on a grid. -/
def apply (scene : Scene) (table : ElementTable) (grid : Grid) : Option PaintFault × Grid :=
  Paint.applyAll table 0 scene.paint grid

/-- A pair of a width and a height. -/
def sizeOfValue? : Value → Option (Nat × Nat)
  | .tuple none [width, height] => do return (← width.word? .word64, ← height.word? .word64)
  | _ => none

/-- The scene that a text describes. -/
def ofText? (text : String) : Option Scene := do
  let ⟨extensions, value⟩ ← Ron.Document.ofText? text ["size"]
  let fields ← value.record? extensions "Scene"
  let size ← Value.optionalField? fields "size" (Value.option? extensions sizeOfValue?)
  let paint ← Value.optionalField? fields "paint" (Value.list? Paint.ofValue?)
  return { size := size.join, paint := paint.getD [] }

end Scene
end FallingSand
