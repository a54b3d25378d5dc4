import FallingSand.Mod.Statement
import FallingSand.Ron.Decode

/-!
# The text of a mod

A mod is written as a record with a list of statements, each of which carries the name of its kind.
-/

namespace FallingSand

open Ron (Extension Value)

/-- The property of a name. -/
def PropertyKey.ofValue? : Value → Option PropertyKey
  | .name "Density" => some density
  | .name "Gravity" => some gravity
  | .name "Spread" => some spread
  | .name "Slide" => some slide
  | _ => none

/-- The term that a text stands for. -/
def Term.ofValue? (value : Value) : Option Term :=
  value.text?.map Term.ofText

/-- The clause that a record describes. -/
def Clause.ofValue? (extensions : List Extension) (value : Value) : Option Clause := do
  let fields ← value.record? extensions "WhereClause"
  return {
    relation := ← Value.field? fields "relation" Value.text?
    terms := ← Value.field? fields "terms" (Value.list? Term.ofValue?) }

namespace Statement

/-- The statement of a kind that the fields of a record describe, with a reader for the statements
below it. -/
def ofFields? (extensions : List Extension) (below : Value → Option Statement) (kind : String)
    (fields : List (String × Value)) : Option Statement :=
  let text (key : String) := Value.field? fields key Value.text?
  let term (key : String) := Value.field? fields key Term.ofValue?
  let number (key : String) := Value.field? fields key Value.single?
  match kind with
  | "Element" => do return .element (← text "name") (← text "color")
  | "Relation" => do
      return .relation (← text "name") (← Value.field? fields "arity" (Value.word? .word64))
  | "Member" => do
      return .member (← text "relation")
        (← Value.field? fields "terms" (Value.list? Term.ofValue?))
  | "Property" => do
      return .property (← Value.field? fields "key" PropertyKey.ofValue?) (← term "subject")
        (← number "value")
  | "Tag" => do return .tag (← term "subject") (← text "tag")
  | "Name" => do return .name (← term "subject") (← text "name")
  | "Description" => do return .description (← term "subject") (← text "text")
  | "Reaction" => do
      return .reaction (← number "probability") (← term "left") (← term "right")
        (← term "out_left") (← term "out_right")
  | "SelfTransition" => do
      return .transition (← number "probability") (← term "source") (← term "target")
  | "Where" => do
      return .block (← Value.field? fields "clauses" (Value.list? (Clause.ofValue? extensions)))
        (← Value.field? fields "body" (Value.list? below))
  | _ => none

/-- The statement that a value describes, nesting at most to the given depth. -/
def ofValue? (extensions : List Extension) : (depth : Nat) → Value → Option Statement
  | _, .tuple (some "Title") [text] => text.text?.map .title
  | depth + 1, .record (some kind) fields =>
      ofFields? extensions (ofValue? extensions depth) kind fields
  | _, _ => none

end Statement

/-- The statements of a mod that a text describes. -/
def Declarations.ofText? (text : String) : Option Declarations := do
  let ⟨extensions, value⟩ ← Ron.Document.ofText? text []
  let fields ← value.record? extensions "Declarations"
  Value.field? fields "statements" (Value.list? (Statement.ofValue? extensions Ron.maxDepth))

end FallingSand
