import FallingSand.Ron.Decode
import FallingSand.Snapshot.Basic
import FallingSand.Text.Quoted

/-!
# Snapshots as text

The text of a snapshot is a record with a field on every line; lists are written with an item on
every line and indented by four more blanks.
-/

namespace FallingSand
namespace Snapshot

/-- A list inside a record, from its items as they are written. -/
def listText (items : List String) : String :=
  if items.isEmpty then "[]"
  else "[\n" ++ String.join (items.map fun item => "        " ++ item ++ ",\n") ++ "    ]"

/-- A record, from its fields as they are written. -/
def recordText (fields : List (String × String)) : String :=
  "(\n" ++ String.join (fields.map fun field => "    " ++ field.1 ++ ": " ++ field.2 ++ ",\n") ++
    ")"

/-- The text of a snapshot. -/
def toText (snapshot : Snapshot) : String :=
  recordText
    [("width", toString snapshot.width.toNat),
      ("height", toString snapshot.height.toNat),
      ("tick", toString snapshot.tick.toNat),
      ("palette", listText (snapshot.palette.toList.map Text.quote)),
      ("cells", listText (snapshot.cells.toList.map fun cell => toString cell.toNat))]

open Ron (Value)

/-- The snapshot that a text describes. -/
def ofText? (text : String) : Option Snapshot := do
  let ⟨extensions, value⟩ ← Ron.Document.ofText? text []
  let fields ← value.record? extensions "GridSnapshot"
  let palette ← Value.field? fields "palette" (Value.list? Value.text?)
  let cells ← Value.field? fields "cells" (Value.list? (Value.word? .word16))
  return {
    width := UInt32.ofNat (← Value.field? fields "width" (Value.word? .word32))
    height := UInt32.ofNat (← Value.field? fields "height" (Value.word? .word32))
    tick := UInt64.ofNat (← Value.field? fields "tick" (Value.word? .word64))
    palette := palette.toArray
    cells := (cells.map UInt16.ofNat).toArray }

end Snapshot
end FallingSand
