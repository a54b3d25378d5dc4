import FallingSand.Mod.Relation

/-!
# Patterns and their rows

A pattern is a clause whose names are resolved.  A row is one way to meet a list of patterns: it
picks a membership for each, binds every variable to an element, and remembers where the bindings
came from.  Rows are listed in lexicographic order of the memberships picked, the first pattern
varying slowest.
-/

namespace FallingSand

/-- A term whose element name is resolved. -/
inductive Slot where
  /-- A fixed element. -/
  | element (id : ElementId)
  /-- A variable. -/
  | var (name : String)
  deriving DecidableEq

/-- A clause whose names are resolved. -/
structure Pattern where
  /-- Place of the relation in the registry. -/
  relation : Nat
  /-- Slots in the order of the tuple. -/
  slots : List Slot
  deriving DecidableEq

namespace Pattern

/-- Whether the subject of the pattern is the given variable. -/
def hasSubject (pattern : Pattern) (name : String) : Bool :=
  pattern.slots.head? == some (.var name)

end Pattern

/-- The element bound to a variable. -/
structure Binding where
  /-- The variable. -/
  name : String
  /-- Its element. -/
  element : ElementId
  /-- Origin of the membership that bound it first. -/
  origin : Origin
  deriving DecidableEq

/-- One way to meet a list of patterns. -/
structure Row where
  /-- The bindings in the order in which the variables were met. -/
  bindings : List Binding
  /-- Origin of the membership picked for each pattern. -/
  origins : List Origin
  deriving DecidableEq

namespace Row

/-- The row that meets no patterns. -/
def empty : Row where
  bindings := []
  origins := []

/-- The binding of a variable. -/
def find? (row : Row) (name : String) : Option Binding :=
  row.bindings.find? (·.name == name)

/-- The element that a slot stands for. -/
def element? (row : Row) : Slot → Option ElementId
  | .element id => some id
  | .var name => (row.find? name).map (·.element)

/-- The latest origin of the memberships picked. -/
def latestOrigin (row : Row) : Origin :=
  row.origins.foldl Origin.max default

/-- Match slots with elements one by one: a fixed element and a bound variable have to agree, an
unbound variable is bound. -/
def matchSlots (origin : Origin) : List Slot → List ElementId → Row → Option Row
  | .element expected :: slots, id :: ids, row =>
      if expected = id then matchSlots origin slots ids row else none
  | .var name :: slots, id :: ids, row =>
      match row.find? name with
      | some bound => if bound.element = id then matchSlots origin slots ids row else none
      | none =>
          matchSlots origin slots ids
            { row with bindings := row.bindings ++ [⟨name, id, origin⟩] }
  | _, _, row => some row

/-- Pick a membership for one more pattern, if it agrees with the row. -/
def extend? (row : Row) (pattern : Pattern) (membership : Membership) : Option Row :=
  (matchSlots membership.origin pattern.slots membership.tuple row).map fun matched =>
    { matched with origins := matched.origins ++ [membership.origin] }

end Row

namespace Registry

/-- Every way to extend a row by a membership for one more pattern. -/
def extensions (registry : Registry) (pattern : Pattern) (row : Row) : List Row :=
  (registry.membersAt pattern.relation).toList.filterMap (row.extend? pattern)

/-- Every way to meet the patterns. -/
def rows (registry : Registry) (patterns : List Pattern) : List Row :=
  patterns.foldl (fun rows pattern => rows.flatMap (registry.extensions pattern)) [Row.empty]

@[simp]
theorem rows_nil (registry : Registry) : registry.rows [] = [Row.empty] := rfl

theorem rows_append (registry : Registry) (patterns : List Pattern) (pattern : Pattern) :
    registry.rows (patterns ++ [pattern]) =
      (registry.rows patterns).flatMap (registry.extensions pattern) := by
  simp [rows, List.foldl_append]

end Registry
end FallingSand
