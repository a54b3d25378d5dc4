import FallingSand.Mod.Closure
import FallingSand.Mod.Rule

/-!
# Consequences

Once the memberships are closed, every directive has one consequence for each row of its patterns: a
fact about an element, with the provenance that the row gives it, or a rule.
-/

namespace FallingSand

/-- What a directive amounts to for one row. -/
inductive Consequence where
  /-- An element gets a property. -/
  | property (id : ElementId) (key : PropertyKey) (value : Single) (provenance : Provenance)
  /-- An element gets a tag. -/
  | tag (id : ElementId) (text : String) (provenance : Provenance)
  /-- An element gets a name to show. -/
  | displayName (id : ElementId) (text : String) (provenance : Provenance)
  /-- An element gets a piece of description. -/
  | description (id : ElementId) (text : String) (provenance : Provenance)
  /-- There is a reaction. -/
  | reaction (rule : Reaction)
  /-- There is a transition. -/
  | transition (rule : Transition)

namespace Consequence

/-- Whether this is a rule that starts from `Empty`. -/
def startsFromEmpty : Consequence → Bool
  | .reaction rule => rule.left.isEmpty
  | .transition rule => rule.element.isEmpty
  | _ => false

/-- The reaction, if this is one. -/
def reaction? : Consequence → Option Reaction
  | .reaction rule => some rule
  | _ => none

/-- The transition, if this is one. -/
def transition? : Consequence → Option Transition
  | .transition rule => some rule
  | _ => none

/-- Take up a fact about an element. -/
def addTo (catalog : Catalog) : Consequence → Catalog
  | property id key value provenance =>
      catalog.revise id fun draft => draft.assign key value provenance
  | tag id text provenance => catalog.addTag id text provenance
  | displayName id text provenance => catalog.setDisplayName id text provenance
  | description id text provenance => catalog.addDescription id text provenance
  | reaction _ | transition _ => catalog

end Consequence

namespace Directive

/-- The provenance of a fact about the element of a slot: explicit at the top, and under patterns
inherited through the membership that bound the variable, or the latest one for a named element. -/
def provenance (directive : Directive) (row : Row) (subject : Slot) : Provenance :=
  if directive.patterns.isEmpty then .explicit directive.ordinal
  else
    let origin :=
      match subject with
      | .var name => ((row.find? name).map (·.origin)).getD row.latestOrigin
      | .element _ => row.latestOrigin
    .inherited origin directive.ordinal

/-- The consequence of a directive for the row at a place. -/
def consequence? (directive : Directive) (place : Nat) (row : Row) : Option Consequence :=
  let source : RuleSource := ⟨directive.ordinal, place⟩
  match directive.action with
  | .member _ _ _ => none
  | .property key subject value =>
      (row.element? subject).map fun id =>
        .property id key value (directive.provenance row subject)
  | .tag subject text =>
      (row.element? subject).map fun id => .tag id text (directive.provenance row subject)
  | .displayName subject text =>
      (row.element? subject).map fun id => .displayName id text (directive.provenance row subject)
  | .description subject text =>
      (row.element? subject).map fun id => .description id text (directive.provenance row subject)
  | .reaction probability left right outLeft outRight =>
      match row.element? left, row.element? right, row.element? outLeft, row.element? outRight with
      | some left, some right, some outLeft, some outRight =>
          some (.reaction { probability, left, right, outLeft, outRight, source })
      | _, _, _, _ => none
  | .transition probability element target =>
      match row.element? element, row.element? target with
      | some element, some target =>
          some (.transition { probability, element, target, source })
      | _, _ => none

/-- The consequences of a directive, in the order of the rows. -/
def consequences (directive : Directive) (registry : Registry) : List Consequence :=
  (registry.rows directive.patterns).zipIdx.filterMap fun (row, place) =>
    directive.consequence? place row

/-- The consequences of a directive, none of which may be a rule that starts from `Empty`. -/
def checkedConsequences (directive : Directive) (registry : Registry) :
    Except CompileError (List Consequence) :=
  let consequences := directive.consequences registry
  if consequences.any Consequence.startsFromEmpty then .error ⟨directive.path, .emptyReactant⟩
  else .ok consequences

end Directive
end FallingSand
