import FallingSand.Proofs.Turn.Picking

/-!
# Kinds of rules

Reactions of a pair and transitions of an element are chosen in the same way: where any are tried,
those for the pair or the element are tried in the order of the rule set.  What holds for both is
stated once for a kind of rules.
-/

namespace FallingSand

/-- A kind of rules: what they are for, what they do, and how a rule set lets one of them fire. -/
structure RuleKind (α κ β : Type) [DecidableEq κ] where
  /-- The rules of this kind. -/
  listed : RuleSet → List α
  /-- What a rule is for. -/
  key : α → κ
  /-- The chance of a rule to fire when tried. -/
  probability : α → Single
  /-- Where a rule came from. -/
  origin : α → RuleSource
  /-- What comes of a rule that fires. -/
  outcome : α → β
  /-- Whether no rule is ever tried. -/
  inert : κ → Bool
  /-- Let one of the rules fire. -/
  attempt : {σ : Type} → [RandomSource σ] → RuleSet → κ → σ → Option β × σ
  /-- They are tried in their order, unless none ever is. -/
  attempt_eq : ∀ {σ : Type} [RandomSource σ] (rules : RuleSet) (wanted : κ) (source : σ),
    attempt rules wanted source =
      if inert wanted then (none, source)
      else
        let (fired, source) := firstFiring probability
          ((listed rules).filter fun rule => key rule = wanted) source
        (fired.map outcome, source)

namespace RuleKind

/-- The reactions of an ordered pair. -/
def reaction : RuleKind Reaction (ElementId × ElementId) (ElementId × ElementId) where
  listed := RuleSet.reactions
  key := Reaction.pair
  probability := Reaction.probability
  origin := Reaction.source
  outcome := Reaction.outcome
  inert pair := pair.1.isEmpty
  attempt rules pair source := rules.tryReact pair.1 pair.2 source
  attempt_eq rules pair source := by
    simp only [RuleSet.tryReact, RuleSet.reactionsFor_eq_filter, Bool.beq_eq_decide_eq]

/-- The transitions of an element. -/
def transition : RuleKind Transition ElementId ElementId where
  listed := RuleSet.transitions
  key := Transition.element
  probability := Transition.probability
  origin := Transition.source
  outcome := Transition.target
  inert := ElementId.isEmpty
  attempt rules element source := rules.tryTransition element source
  attempt_eq rules element source := by
    simp only [RuleSet.tryTransition, RuleSet.transitionsFor_eq_filter, Bool.beq_eq_decide_eq]

variable {α κ β : Type} [DecidableEq κ] {kind : RuleKind α κ β} {rules : RuleSet} {wanted : κ}

/-- The rules for a pair or an element, in their order. -/
def candidates (kind : RuleKind α κ β) (rules : RuleSet) (wanted : κ) : List α :=
  (kind.listed rules).filter fun rule => kind.key rule = wanted

theorem candidates_reaction (rules : RuleSet) (left right : ElementId) :
    reaction.candidates rules (left, right) = rules.reactionsFor left right := by
  rw [RuleSet.reactionsFor_eq_filter]
  exact List.filter_congr fun _ _ => (Bool.beq_eq_decide_eq _ _).symm

theorem candidates_transition (rules : RuleSet) (element : ElementId) :
    transition.candidates rules element = rules.transitionsFor element := by
  rw [RuleSet.transitionsFor_eq_filter]
  exact List.filter_congr fun _ _ => (Bool.beq_eq_decide_eq _ _).symm

theorem mem_candidates {rule : α} :
    rule ∈ kind.candidates rules wanted ↔ rule ∈ kind.listed rules ∧ kind.key rule = wanted := by
  rw [candidates, List.mem_filter, decide_eq_true_eq]

variable {σ : Type} [RandomSource σ] {source : σ}

open RandomSource (after draw Fair Proper)

theorem attempt_of_inert (inert : kind.inert wanted = true) :
    kind.attempt rules wanted source = (none, source) := by
  rw [kind.attempt_eq, if_pos inert]

theorem attempt_of_firstFiring (able : kind.inert wanted = false) {fired : Option α} {later : σ}
    (first : firstFiring kind.probability (kind.candidates rules wanted) source = (fired, later)) :
    kind.attempt rules wanted source = (fired.map kind.outcome, later) := by
  rw [candidates] at first
  rw [kind.attempt_eq, if_neg (Bool.eq_false_iff.mp able), first]

/-- Where some rule may be tried, the candidates are tried with the numbers of the source. -/
theorem exists_picks (kind : RuleKind α κ β) (rules : RuleSet) (able : kind.inert wanted = false)
    (source : σ) :
    ∃ fired tried,
      Picks kind.probability (draw source) (kind.candidates rules wanted) fired tried ∧
      kind.attempt rules wanted source =
        (fired.map kind.outcome, after source tried) := by
  obtain ⟨fired, tried, picks, first⟩ :=
    exists_picks_firstFiring kind.probability (kind.candidates rules wanted) source
  exact ⟨fired, tried, picks, attempt_of_firstFiring able first⟩

/-- What comes about comes of one of the candidates, and only where some rule may be tried. -/
theorem exists_of_attempt (kind : RuleKind α κ β) (rules : RuleSet) (wanted : κ) {outcome : β}
    (comes : (kind.attempt rules wanted source).1 = some outcome) :
    kind.inert wanted = false ∧
      ∃ rule ∈ kind.candidates rules wanted, kind.outcome rule = outcome := by
  cases able : kind.inert wanted with
  | true => simp [attempt_of_inert able] at comes
  | false =>
      obtain ⟨fired, tried, picks, same⟩ := kind.exists_picks rules able source
      rw [same] at comes
      obtain ⟨rule, rfl, own⟩ := Option.map_eq_some_iff.mp comes
      exact ⟨rfl, rule, picks.mem, own⟩

theorem fair_attempt (kind : RuleKind α κ β) (fair : Fair source) (rules : RuleSet) (wanted : κ) :
    Fair (kind.attempt rules wanted source).2 := by
  cases able : kind.inert wanted with
  | true => rwa [attempt_of_inert able]
  | false =>
      obtain ⟨fired, tried, -, same⟩ := kind.exists_picks rules able source
      rw [same]
      exact fair.after tried

/-- Where a candidate is certain, some rule fires. -/
theorem attempt_isSome (kind : RuleKind α κ β) (wanted : κ) (proper : Proper source)
    (able : kind.inert wanted = false) {rule : α} (listed : rule ∈ kind.candidates rules wanted)
    (certain : kind.probability rule = Single.one) :
    (kind.attempt rules wanted source).1.isSome = true := by
  obtain ⟨fired, tried, picks, same⟩ := kind.exists_picks rules able source
  rw [same, Option.isSome_map]
  exact picks.isSome (fun place => (proper place).2) listed certain

end RuleKind
end FallingSand
