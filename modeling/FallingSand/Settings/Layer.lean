import FallingSand.Ron.Decode
import FallingSand.Settings.Place

/-!
# Layers of settings

Settings come in layers: those of a file, and those of environment variables.  A layer assigns trees
to paths, and a later layer is laid over an earlier one.
-/

namespace FallingSand

open Ron (RangeEnd Value)

namespace Setting

/-- What a layer says: settings by their paths. -/
abbrev Layer := List (String × Setting)

/-- Lay a layer over a tree. -/
def addLayer (tree : Setting) (layer : Layer) : Setting :=
  layer.foldl (fun tree entry => change (lay Ron.maxDepth entry.2) (pathOf entry.1) tree) tree

/-! ## Files -/

/-- What a number in a file stands for: an integer if it can, or a number.  One that names single
precision is rounded to it first. -/
def ofNumeral? (numeral : String) : Option Setting :=
  match Ron.anyInteger? numeral with
  | some value => some (integer value)
  | none =>
      match Ron.quantity? numeral with
      | some (quantity, some .single) => some (number (Double.ofSingle quantity.toSingle))
      | some (quantity, _) => some (number quantity.toDouble)
      | none => none

/-- The tree that an end of a range stands for. -/
def ofRangeEnd? : RangeEnd → Option Setting
  | .number numeral => ofNumeral? numeral
  | .byte value => some (integer value.toNat)

/-- The tree that a range stands for: a table of the ends that it has, if it has any. -/
def ofRange? : (low high : Option RangeEnd) → Option Setting
  | none, none => some missing
  | low, high => do
      let low ← low.mapM ofRangeEnd?
      let high ← high.mapM ofRangeEnd?
      return table (low.toList.map (("start", ·)) ++ high.toList.map (("end", ·)))

/-- A key of a map in a file.  Keys that are written as values of different kinds are different keys
even if they have the same name. -/
structure FileKey where
  /-- Of keys with the same name, the one of the highest rank counts. -/
  rank : Fin 3
  /-- The name. -/
  name : String
  deriving DecidableEq

/-- The key of a record that is a name. -/
def FileKey.ofName (name : String) : FileKey := ⟨1, name⟩

/-- The key that a value in a file stands for.  A text outranks a character, and bytes outrank both.
-/
def FileKey.ofValue? : Value → Option FileKey
  | .character value => some ⟨0, value.toString⟩
  | .text value => some (ofName value)
  | .bytes value => (String.fromUTF8? ⟨value.toArray⟩).map fun name => ⟨2, name⟩
  | _ => none

/-- The last entry for every key, those with keys of a higher rank behind the others. -/
def lastEntries {α : Type} (entries : List (FileKey × α)) : List (FileKey × α) :=
  let last : List (FileKey × α) :=
    entries.foldr
      (fun entry later => if later.any (·.1 == entry.1) then later else entry :: later) []
  (List.finRange 3).flatMap fun rank => last.filter fun entry => entry.1.rank == rank

/-- The table of entries, of which only the last one for a key has to stand for anything. -/
def tableOfLast? (read : Value → Option Setting) (entries : List (FileKey × Value)) :
    Option Setting := do
  return tableOf (← (lastEntries entries).mapM fun (key, value) => do
    return (key.name, ← read value))

/-- The tree that a value in a file stands for, nesting at most to the given depth.  A run of
bytes stands for none. -/
def ofValue? : (depth : Nat) → Value → Option Setting
  | _, .unit | _, .absent | _, .name _ => some missing
  | _, .bool value => some (bool value)
  | _, .number numeral => ofNumeral? numeral
  | _, .range low high => ofRange? low high
  | _, .byte value => some (integer value.toNat)
  | _, .bytes _ => none
  | _, .character value => some (text value.toString)
  | _, .text value => some (text value)
  | depth + 1, .present content | depth + 1, .presentBare content => ofValue? depth content
  | depth + 1, .list items | depth + 1, .tuple _ items => (items.mapM (ofValue? depth)).map list
  | depth + 1, .map entries => do
      tableOfLast? (ofValue? depth) (← entries.mapM fun (key, value) => do
        return (← FileKey.ofValue? key, value))
  | depth + 1, .record _ fields =>
      tableOfLast? (ofValue? depth) (fields.map fun (key, value) => (FileKey.ofName key, value))
  | 0, _ => none

/-- A text without a byte order mark at its start. -/
def withoutMark (content : String) : String :=
  if content.startsWith "\ufeff" then (content.drop 1).toString else content

/-- The layer that the text of a file stands for.  It has to be a table. -/
def layerOfFile? (content : String) : Option Layer := do
  match ← ofValue? Ron.maxDepth (← Ron.Document.ofText? (withoutMark content) []).value with
  | table entries => some entries
  | _ => none

/-! ## Environment variables -/

/-- What the text of an environment variable stands for: a truth value, an integer, a number, or
else a text. -/
def ofVariable (content : String) : Setting :=
  match content.toLower with
  | "true" => bool true
  | "false" => bool false
  | _ =>
      let whole := (Number.Decimal.intOfText? content.toList).filter fun value =>
        Int64.minValue.toInt ≤ value && value ≤ Int64.maxValue.toInt
      match whole, Double.ofText? content with
      | some value, _ => integer value
      | none, some value => number value
      | none, none => text content

/-- What the names of the environment variables that are settings begin with. -/
def variableStart : String := "sandmod__"

/-- The small letter of a capital letter of ASCII or of the sign for kelvin. -/
def smallLetter (character : Char) : Char :=
  if character == '\u212a' then 'k' else character.toLower

/-- The setting that an environment variable is, if it is one.  Two underscores separate the names
of its path. -/
def ofAssignment? (assignment : String × String) : Option (String × Setting) :=
  let name := assignment.1.map smallLetter
  if name.startsWith variableStart then
    some ((name.drop variableStart.length).toString.replace "__" ".", ofVariable assignment.2)
  else none

/-- The layer of environment variables. -/
def layerOfEnvironment (environment : List (String × String)) : Layer :=
  environment.filterMap ofAssignment?

end Setting
end FallingSand
