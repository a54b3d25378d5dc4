import FallingSand.Mod.Declared
import FallingSand.Mod.Pattern

/-!
# Directives

A directive is a statement that has been checked against what the mod declares: its names are
resolved, its tuples fit, its variables are bound and its numbers are in range.  It says what to do
for every row of the patterns that enclose it.
-/

namespace FallingSand

/-- What to do for each row. -/
inductive Action where
  /-- Add a tuple to the relation at a place. -/
  | member (relation : Nat) (subject : Slot) (args : List Slot)
  /-- Assign a property. -/
  | property (key : PropertyKey) (subject : Slot) (value : Single)
  /-- Add a tag. -/
  | tag (subject : Slot) (text : String)
  /-- Set the name to show. -/
  | displayName (subject : Slot) (text : String)
  /-- Add a piece of description. -/
  | description (subject : Slot) (text : String)
  /-- Add a reaction. -/
  | reaction (probability : Single) (left right outLeft outRight : Slot)
  /-- Add a transition. -/
  | transition (probability : Single) (source target : Slot)

/-- A checked statement. -/
structure Directive where
  /-- Ordinal of the statement. -/
  ordinal : Nat
  /-- Path of the statement. -/
  path : List Nat
  /-- The clauses that enclose it, outermost first. -/
  patterns : List Pattern
  /-- What to do for each of their rows. -/
  action : Action

namespace Declared

/-- Resolve a term of a clause, where any variable may occur. -/
def patternSlot (declared : Declared) : Term → Except Fault Slot
  | .element name => do return .element (← declared.catalog.idOf name)
  | .var name => .ok (.var name)

/-- The pattern of a clause. -/
def pattern (declared : Declared) (clause : Clause) : Except Fault Pattern := do
  let _ ← declared.registry.getFitting clause.relation clause.terms.length
  let relation ← declared.registry.placeOf clause.relation
  let slots ← clause.terms.mapM declared.patternSlot
  return { relation, slots }

/-- Resolve a term of a statement, where only variables of the enclosing clauses may occur. -/
def slot (declared : Declared) (clauses : List Clause) : Term → Except Fault Slot
  | .element name => do return .element (← declared.catalog.idOf name)
  | .var name =>
      if clauses.any fun clause => clause.terms.contains (.var name) then .ok (.var name)
      else .error (.unboundVariable name)

/-- A probability lies between zero and one. -/
def checkProbability (probability : Single) : Except Fault Unit :=
  if Single.zero.le probability && probability.le Single.one then .ok ()
  else .error (.probabilityOutOfRange probability)

/-- A rule does not start from `Empty` by name. -/
def checkReactant (term : Term) : Except Fault Unit :=
  if term = .element emptyName then .error .emptyReactant else .ok ()

/-- The action of a statement under the given clauses, if it has one.  A block has none but its own
clauses are checked. -/
def action? (declared : Declared) (clauses : List Clause) :
    Statement → Except Fault (Option Action)
  | .title _ | .element _ _ | .relation _ _ => .ok none
  | .block own _ => do
      let _ ← own.mapM declared.pattern
      return none
  | .member relation terms => do
      let _ ← declared.registry.getFitting relation terms.length
      let place ← declared.registry.placeOf relation
      match ← terms.mapM (declared.slot clauses) with
      | subject :: args => return some (.member place subject args)
      | [] => .error (.invalidArity relation)
  | .property key subject value => do
      if key.accepts value then
        return some (.property key (← declared.slot clauses subject) value)
      else .error (.invalidProperty key value)
  | .tag subject text => do return some (.tag (← declared.slot clauses subject) text)
  | .name subject text => do return some (.displayName (← declared.slot clauses subject) text)
  | .description subject text => do
      return some (.description (← declared.slot clauses subject) text)
  | .reaction probability left right outLeft outRight => do
      checkProbability probability
      checkReactant left
      let left ← declared.slot clauses left
      let right ← declared.slot clauses right
      let outLeft ← declared.slot clauses outLeft
      let outRight ← declared.slot clauses outRight
      return some (.reaction probability left right outLeft outRight)
  | .transition probability source target => do
      checkProbability probability
      checkReactant source
      let source ← declared.slot clauses source
      let target ← declared.slot clauses target
      return some (.transition probability source target)

/-- Check the statement of an entry. -/
def directive? (declared : Declared) (entry : Entry) (ordinal : Nat) :
    Except Fault (Option Directive) := do
  let patterns ← entry.clauses.mapM declared.pattern
  match ← declared.action? entry.clauses entry.statement with
  | none => return none
  | some action => return some { ordinal, path := entry.path, patterns, action }

/-- The directives of a mod, or the first fault of a statement. -/
def directives (declared : Declared) (entries : List Entry) :
    Except CompileError (List Directive) := do
  let checked ← entries.zipIdx.mapM fun (entry, ordinal) =>
    entry.locate (declared.directive? entry ordinal)
  return checked.filterMap id

end Declared

/-! ## Templates -/

namespace Directive

/-- The patterns of the relation at a place whose subject is the variable of a slot. -/
def patternsAbout (directive : Directive) (relation : Nat) : Slot → List Pattern
  | .element _ => []
  | .var name =>
      directive.patterns.filter fun pattern =>
        pattern.relation == relation && pattern.hasSubject name

/-- Property values that a directive declares for every subject of a relation. -/
def templateProperties (directive : Directive) (relation : Nat) : List (PropertyKey × Single) :=
  match directive.action with
  | .property key subject value =>
      (directive.patternsAbout relation subject).map fun _ => (key, value)
  | _ => []

/-- Tags that a directive declares for every subject of a relation. -/
def templateTags (directive : Directive) (relation : Nat) : List String :=
  match directive.action with
  | .tag subject text => (directive.patternsAbout relation subject).map fun _ => text
  | _ => []

end Directive

/-- The template of the relation at a place: what directives declare for every subject of it. -/
def templateOf (directives : List Directive) (relation : Nat) : Template where
  properties := directives.flatMap fun directive => directive.templateProperties relation
  tags := directives.flatMap fun directive => directive.templateTags relation

namespace Registry

/-- Give every relation its template. -/
def withTemplates (registry : Registry) (directives : List Directive) : Registry :=
  { registry with
    relations := registry.relations.mapIdx fun place relation =>
      { relation with template := templateOf directives place } }

end Registry
end FallingSand
