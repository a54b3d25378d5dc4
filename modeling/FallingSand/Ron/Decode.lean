import FallingSand.Ron.Value

/-!
# Reading values as data

A value is read as a text, a number within bounds, a list, an optional value, or a record of which
some fields are asked for.  A field that is asked for occurs once; fields that nobody asks for are
passed over.
-/

namespace FallingSand
namespace Ron
namespace Value

/-- The integer of a type that a value stands for. -/
def integer? (type : IntegerType) : Value → Option Int
  | number numeral => integerOf? type numeral
  | _ => none

/-- The natural number of a type without negative integers that a value stands for. -/
def word? (type : IntegerType) (value : Value) : Option Nat :=
  (value.integer? type).map Int.toNat

/-- The single-precision number closest to what a value stands for. -/
def single? : Value → Option Single
  | number numeral => do
      let (quantity, precision) ← quantity? numeral
      if precision = some .double then none else some quantity.toSingle
  | _ => none

/-- The text that a value is. -/
def text? : Value → Option String
  | text value => some value
  | _ => none

/-- The items of a list, each read in the same way. -/
def list? {α : Type} (read : Value → Option α) : Value → Option (List α)
  | list items => items.mapM read
  | _ => none

/-- A value that may be missing. -/
def option? {α : Type} (extensions : List Extension) (read : Value → Option α) :
    Value → Option (Option α)
  | absent => some none
  | present content | presentBare content => (read content).map some
  | value => if extensions.contains .implicitOptions then (read value).map some else none

/-- Whether a record of an expected name may carry a name. -/
def acceptsName (extensions : List Extension) (expected : String) : Option String → Bool
  | some carried => carried == expected
  | none => !extensions.contains .explicitNames

/-- The fields of a record that carries the given name or, unless names are explicit, none. -/
def record? (extensions : List Extension) (expected : String) :
    Value → Option (List (String × Value))
  | record carried fields => if acceptsName extensions expected carried then some fields else none
  | tuple carried [] => if acceptsName extensions expected carried then some [] else none
  | unit => if acceptsName extensions expected none then some [] else none
  | _ => none

/-- A field of a record, if it occurs at all; it may not occur twice. -/
def optionalField? {α : Type} (fields : List (String × Value)) (key : String)
    (read : Value → Option α) : Option (Option α) :=
  match fields.filter fun field => field.1 == key with
  | [] => some none
  | [(_, value)] => (read value).map some
  | _ => none

/-- A field of a record that has to occur. -/
def field? {α : Type} (fields : List (String × Value)) (key : String)
    (read : Value → Option α) : Option α :=
  (optionalField? fields key read).join

end Value
end Ron
end FallingSand
