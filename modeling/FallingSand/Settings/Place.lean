import FallingSand.Settings.Tree

/-!
# Places in trees of settings

A key can be a path, which leads through tables by names and through lists by places counted from
either end.  A tree is laid at the end of a path; where the path leads through nothing, tables and
lists come into being.
-/

namespace FallingSand
namespace Setting

/-- A step of a path. -/
inductive Step where
  /-- To what a key of a table leads to. -/
  | key (name : String)
  /-- To an item of a list, counted from its end if the place is negative. -/
  | index (place : Int)
  deriving DecidableEq, Repr

/-! ## Paths -/

/-- Whether a character may occur in a name of a path. -/
def isNameChar (character : Char) : Bool :=
  character.isAlphanum || character == '_' || character == '-'

/-- Whether a character may surround a place in its brackets. -/
def isPadding (character : Char) : Bool :=
  character == ' ' || character == '\t'

/-- The place that digits after an optional minus sign stand for, if it has sixty-four bits. -/
def place? (written : List Char) : Option Int :=
  if written.head? = some '+' then none
  else
    (Number.Decimal.intOfText? written).filter fun place =>
      Int64.minValue.toInt ≤ place && place ≤ Int64.maxValue.toInt

/-- Read the steps of a path: names after points and places in brackets.  Every step takes at least
one character. -/
def stepsFrom? : (limit : Nat) → List Char → Option (List Step)
  | _, [] => some []
  | limit + 1, '.' :: rest =>
      let name := rest.takeWhile isNameChar
      if name.isEmpty then none
      else (stepsFrom? limit (rest.dropWhile isNameChar)).map (.key (String.ofList name) :: ·)
  | limit + 1, '[' :: rest =>
      let rest := rest.dropWhile isPadding
      let isPlaceChar (character : Char) := character.isDigit || character == '-'
      match (rest.dropWhile isPlaceChar).dropWhile isPadding with
      | ']' :: after => do
          let place ← place? (rest.takeWhile isPlaceChar)
          return .index place :: (← stepsFrom? limit after)
      | _ => none
  | _, _ => none

/-- The path that a key stands for: the names and places in it, or the key itself if these do not
make it up. -/
def pathOf (key : String) : List Step :=
  (stepsFrom? (key.length + 1) ('.' :: key.toList)).getD [.key key]

/-! ## Laying one tree over another -/

/-- A list that has an item at a place, and the position of that item.  Missing items are added at
the end, or in front if the place is counted from the end. -/
def reach (items : List Setting) (place : Int) : List Setting × Nat :=
  let position := (if place < 0 then items.length else 0) + place
  if position < 0 then (List.replicate (-position).toNat missing ++ items, 0)
  else (items ++ List.replicate (position.toNat + 1 - items.length) missing, position.toNat)

/-- Change what a path leads to. -/
def change (update : Setting → Setting) : List Step → Setting → Setting
  | [], tree => update tree
  | .key name :: path, tree => tree.insert name (change update path (tree.get name))
  | .index place :: path, tree =>
      let (items, position) := reach tree.items place
      list (items.modify position (change update path))

/-- Lay a tree over one below it: a table is laid key by key over another one, and anything else
takes the place of what was there.  Trees nest at most to the given depth. -/
def lay : (depth : Nat) → (upper lower : Setting) → Setting
  | depth + 1, table upper, lower =>
      upper.foldl
        (fun tree entry => tree.insert entry.1 (lay depth entry.2 (tree.get entry.1)))
        (table lower.entries)
  | _, upper, _ => upper

end Setting
end FallingSand
