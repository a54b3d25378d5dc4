import FallingSand.Buckets
import FallingSand.Mod.Relation
import FallingSand.Random.Source

/-!
# Rules

A reaction turns an ordered pair of neighbors into another pair, a transition one element into
another, each with a probability.  A rule set lists them in the order of the statements that they
come from; among the rules of one pair or one element they are tried in that order, with one draw
each, until one fires.
-/

namespace FallingSand

/-- Where a rule came from. -/
structure RuleSource where
  /-- Ordinal of its statement. -/
  statement : Nat
  /-- Place of the row that it belongs to. -/
  row : Nat
  deriving DecidableEq, Repr

/-- A rule for a pair of neighbors. -/
structure Reaction where
  /-- Chance to fire when tried. -/
  probability : Single
  /-- The element that acts. -/
  left : ElementId
  /-- The neighbor that it acts on. -/
  right : ElementId
  /-- What the acting element becomes. -/
  outLeft : ElementId
  /-- What the neighbor becomes. -/
  outRight : ElementId
  /-- Where the rule came from. -/
  source : RuleSource
  deriving DecidableEq

namespace Reaction

/-- The ordered pair that the rule is for. -/
def pair (reaction : Reaction) : ElementId × ElementId :=
  (reaction.left, reaction.right)

/-- What the pair becomes. -/
def outcome (reaction : Reaction) : ElementId × ElementId :=
  (reaction.outLeft, reaction.outRight)

end Reaction

/-- A rule for a single element. -/
structure Transition where
  /-- Chance to fire when tried. -/
  probability : Single
  /-- The element that changes. -/
  element : ElementId
  /-- What it becomes. -/
  target : ElementId
  /-- Where the rule came from. -/
  source : RuleSource
  deriving DecidableEq

/-- What a mod compiles to. -/
structure RuleSet where
  /-- Title of the mod. -/
  title : Option String
  /-- Its elements. -/
  elements : ElementTable
  /-- Its relations with all their members. -/
  registry : Registry
  /-- Its reactions in the order of their sources. -/
  reactions : List Reaction
  /-- Its transitions in the order of their sources. -/
  transitions : List Transition
  /-- The reactions of each pair. -/
  byPair : Buckets Reaction.pair reactions
  /-- The reactions of each acting element. -/
  byLeft : Buckets Reaction.left reactions
  /-- The transitions of each element. -/
  byElement : Buckets Transition.element transitions

namespace RuleSet

/-- The rule set with the given parts. -/
def ofRules (title : Option String) (elements : ElementTable) (registry : Registry)
    (reactions : List Reaction) (transitions : List Transition) : RuleSet where
  title
  elements
  registry
  reactions
  transitions
  byPair := Buckets.ofList _ reactions
  byLeft := Buckets.ofList _ reactions
  byElement := Buckets.ofList _ transitions

/-- The reactions of an ordered pair. -/
def reactionsFor (rules : RuleSet) (left right : ElementId) : List Reaction :=
  rules.byPair.get (left, right)

/-- The transitions of an element. -/
def transitionsFor (rules : RuleSet) (element : ElementId) : List Transition :=
  rules.byElement.get element

/-- Whether an element starts any reaction. -/
def hasReactionsFrom (rules : RuleSet) (left : ElementId) : Bool :=
  !(rules.byLeft.get left).isEmpty

theorem reactionsFor_eq_filter (rules : RuleSet) (left right : ElementId) :
    rules.reactionsFor left right =
      rules.reactions.filter fun reaction => reaction.pair == (left, right) :=
  rules.byPair.get_eq_filter _

theorem transitionsFor_eq_filter (rules : RuleSet) (element : ElementId) :
    rules.transitionsFor element =
      rules.transitions.filter fun transition => transition.element == element :=
  rules.byElement.get_eq_filter _

theorem hasReactionsFrom_iff (rules : RuleSet) (left : ElementId) :
    rules.hasReactionsFrom left = true ↔ ∃ reaction ∈ rules.reactions, reaction.left = left := by
  simp [hasReactionsFrom, Buckets.get_eq_filter]

end RuleSet

/-! ## Trying rules -/

section Trying

variable {σ α : Type} [RandomSource σ]

/-- The first of the candidates whose own draw lets it happen. -/
def firstFiring (probability : α → Single) : List α → σ → Option α × σ
  | [], source => (none, source)
  | candidate :: rest, source =>
      let (fires, source) := RandomSource.chance (probability candidate) source
      if fires then (some candidate, source) else firstFiring probability rest source

namespace RuleSet

/-- Let `left` act on its neighbor `right`: what the pair becomes, if a reaction fires.  `Empty`
never acts. -/
def tryReact (rules : RuleSet) (left right : ElementId) (source : σ) :
    Option (ElementId × ElementId) × σ :=
  if left.isEmpty then (none, source)
  else
    let (fired, source) := firstFiring Reaction.probability (rules.reactionsFor left right) source
    (fired.map Reaction.outcome, source)

/-- Let an element change by itself: what it becomes, if a transition fires.  `Empty` never
changes. -/
def tryTransition (rules : RuleSet) (element : ElementId) (source : σ) : Option ElementId × σ :=
  if element.isEmpty then (none, source)
  else
    let (fired, source) :=
      firstFiring Transition.probability (rules.transitionsFor element) source
    (fired.map Transition.target, source)

end RuleSet
end Trying
end FallingSand
