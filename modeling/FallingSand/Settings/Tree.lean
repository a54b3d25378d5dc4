import FallingSand.Number.Double

/-!
# Trees of settings

A setting is a value, or a list or table of settings; a table leads from keys to settings.  A value
is read as what is asked for even if it is written as something else, such as a number as a text.
-/

namespace FallingSand

/-- A tree of settings. -/
inductive Setting where
  /-- A setting that is said to be missing. -/
  | missing
  /-- A truth value. -/
  | bool (value : Bool)
  /-- An integer. -/
  | integer (value : Int)
  /-- A number. -/
  | number (value : Double)
  /-- A text. -/
  | text (value : String)
  /-- A list. -/
  | list (items : List Setting)
  /-- A table. -/
  | table (entries : List (String × Setting))

namespace Setting

/-! ## Tables and lists -/

/-- The entries of a table; nothing else has any. -/
def entries : Setting → List (String × Setting)
  | table entries => entries
  | _ => []

/-- The items of a list; nothing else has any. -/
def items : Setting → List Setting
  | list items => items
  | _ => []

/-- What a key of a table leads to. -/
def get (tree : Setting) (key : String) : Setting :=
  (tree.entries.lookup key).getD missing

/-- A table with an entry replaced or added; anything but a table makes place for one. -/
def insert (tree : Setting) (key : String) (value : Setting) : Setting :=
  table ((tree.entries.filter fun entry => entry.1 != key) ++ [(key, value)])

/-- The table with the given entries, of which a later one replaces an earlier one for its key. -/
def tableOf (entries : List (String × Setting)) : Setting :=
  entries.foldl (fun tree entry => tree.insert entry.1 entry.2) (table [])

/-! ## Reading -/

/-- The words for truth values where a number is asked for. -/
def truthWord? (word : String) : Option Nat :=
  if ["true", "on", "yes"].contains word then some 1
  else if ["false", "off", "no"].contains word then some 0
  else none

/-- The natural number that decimal digits after an optional plus sign stand for. -/
def unsigned? (content : String) : Option Nat :=
  match content.toList with
  | '+' :: digits => Number.Decimal.digitsToNat? digits
  | digits => Number.Decimal.digitsToNat? digits

/-- A natural number of at most sixty-four bits. -/
def word? : Setting → Option Nat
  | integer value => if 0 ≤ value ∧ value < UInt64.size then some value.toNat else none
  | bool value => some value.toNat
  | number value => some (value.roundToNat (UInt64.size - 1))
  | text value =>
      match truthWord? value.toLower with
      | some truth => some truth
      | none => (unsigned? value).filter (· < UInt64.size)
  | _ => none

/-- A text. -/
def text? : Setting → Option String
  | text value => some value
  | bool value => some (if value then "true" else "false")
  | integer value => some (toString value)
  | number value => some value.toText
  | _ => none

/-- A text that may be missing. -/
def optionalText? : Setting → Option (Option String)
  | missing => some none
  | setting => setting.text?.map some

/-- One of several choices: its word, or a table with that word as its only key. -/
def choice? {α : Type} (choices : List (String × α)) : Setting → Option α
  | text word => choices.lookup word
  | table [(word, _)] => choices.lookup word
  | _ => none

end Setting
end FallingSand
