import FallingSand.Proofs.Grid.Adjacency
import FallingSand.Proofs.Random.Shuffle
import FallingSand.Proofs.Turn.Kinds
import FallingSand.Turn.Change
import FallingSand.Turn.Contact

/-!
# Turns in which a rule fires

In a turn to change or to react, either no rule fires, and then only draws are used up, or one rule
of the elements that stand there writes what it makes of them.  Whatever such turns keep or bring
about is derived from these cases.
-/

namespace FallingSand

/-! ## The rules of a pair or an element -/

namespace RuleSet

variable {rules : RuleSet} {left right element : ElementId}

theorem mem_reactionsFor {reaction : Reaction} :
    reaction ∈ rules.reactionsFor left right ↔
      reaction ∈ rules.reactions ∧ reaction.left = left ∧ reaction.right = right := by
  rw [reactionsFor_eq_filter, List.mem_filter, beq_iff_eq, Reaction.pair, Prod.mk.injEq]

theorem mem_transitionsFor {transition : Transition} :
    transition ∈ rules.transitionsFor element ↔
      transition ∈ rules.transitions ∧ transition.element = element := by
  rw [transitionsFor_eq_filter, List.mem_filter, beq_iff_eq]

end RuleSet

/-! ## Trying rules -/

variable {σ : Type} [RandomSource σ]

/-- What a pair becomes is the outcome of one of its reactions. -/
theorem exists_of_tryReact {rules : RuleSet} {left right : ElementId} {source : σ}
    {outcome : ElementId × ElementId}
    (fired : (rules.tryReact left right source).1 = some outcome) :
    ∃ reaction ∈ rules.reactionsFor left right, reaction.outcome = outcome := by
  rw [← RuleKind.candidates_reaction]
  exact (RuleKind.reaction.exists_of_attempt rules (left, right) fired).2

/-- What an element becomes is the target of one of its transitions. -/
theorem exists_of_tryTransition {rules : RuleSet} {element target : ElementId} {source : σ}
    (fired : (rules.tryTransition element source).1 = some target) :
    ∃ transition ∈ rules.transitionsFor element, transition.target = target := by
  rw [← RuleKind.candidates_transition]
  exact (RuleKind.transition.exists_of_attempt rules element fired).2

namespace Progress

variable {size : Size} {rules : RuleSet} {site : Site size}

/-! ## Changing alone -/

/-- What a turn to change can make of a board and a tally. -/
inductive Changes (rules : RuleSet) (site : Site size) (board : Board size) (tally : Tally) :
    Bool × Progress size σ → Prop where
  /-- No transition fires. -/
  | idle (source : σ) : Changes rules site board tally (false, { board, tally, source })
  /-- A transition of the element replaces the cell. -/
  | fires {transition : Transition}
      (applies : transition ∈ rules.transitionsFor (board.cell site).element) (source : σ) :
      Changes rules site board tally
        (true,
          { board := board.put site (Cell.ofElement transition.target)
            tally := tally.addTransition
            source })

theorem changes (rules : RuleSet) (site : Site size) (progress : Progress size σ) :
    Changes rules site progress.board progress.tally (progress.change rules site) := by
  rw [change]
  dsimp only
  split
  · rename_i target fired
    obtain ⟨transition, applies, rfl⟩ := exists_of_tryTransition fired
    exact .fires applies _
  · exact .idle _

/-! ## Reacting with a neighbor -/

/-- What a turn to react can make of a board and a tally. -/
inductive Reacts (rules : RuleSet) (edge : Edge) (site : Site size) (board : Board size)
    (tally : Tally) : Bool × Progress size σ → Prop where
  /-- No reaction fires. -/
  | idle (source : σ) : Reacts rules edge site board tally (false, { board, tally, source })
  /-- A reaction with an adjacent cell replaces both, neither of which has reacted before. -/
  | fires {neighbor : Site size} (adjacent : Adjacent edge site neighbor)
      (fresh : (board.cell site).reacted = false)
      (neighborFresh : (board.cell neighbor).reacted = false) {reaction : Reaction}
      (applies : reaction ∈
        rules.reactionsFor (board.cell site).element (board.cell neighbor).element)
      (source : σ) :
      Reacts rules edge site board tally
        (true,
          { board := (board.put site (Cell.ofReacted reaction.outLeft)).put neighbor
              (Cell.ofReacted reaction.outRight)
            tally := tally.addReaction
            source })

omit [RandomSource σ] in
/-- What has not reacted after a turn has not been rewritten in it. -/
theorem Reacts.cell_of_fresh {edge : Edge} {board : Board size} {tally : Tally}
    {result : Bool × Progress size σ} (turn : Reacts rules edge site board tally result)
    {other : Site size} (fresh : (result.2.board.cell other).reacted = false) :
    result.2.board.cell other = board.cell other := by
  cases turn with
  | idle _ => rfl
  | fires _ _ _ _ _ =>
      rw [Board.cell_put, Board.cell_put] at fresh ⊢
      split at fresh
      · cases fresh
      · split at fresh
        · cases fresh
        · rw [if_neg ‹_›, if_neg ‹_›]

omit [RandomSource σ] in
/-- Where a rule fires, the cell whose turn it is has reacted. -/
theorem Reacts.reacted_of_fired {edge : Edge} {board : Board size} {tally : Tally}
    {result : Bool × Progress size σ} (turn : Reacts rules edge site board tally result)
    (fired : result.1 = true) : (result.2.board.cell site).reacted = true := by
  cases turn with
  | idle _ => cases fired
  | fires adjacent _ _ _ _ =>
      rw [Board.cell_put_of_ne _ _ adjacent.1, Board.cell_put_self]
      rfl

/-- Nothing is written until a reaction fires, so every neighbor is met as the turn finds it. -/
theorem reacts_actOn {edge : Edge} {neighbors : List (Site size)} {board : Board size}
    (adjacent : ∀ neighbor ∈ neighbors, Adjacent edge site neighbor)
    (fresh : (board.cell site).reacted = false) (tally : Tally) (source : σ) :
    Reacts rules edge site board tally
      (actOn rules site (board.cell site).element neighbors { board, tally, source }) := by
  induction neighbors generalizing source with
  | nil => exact .idle _
  | cons neighbor rest induction =>
      obtain ⟨next, later⟩ := List.forall_mem_cons.mp adjacent
      rw [actOn]
      dsimp only
      split
      · exact induction later _
      · rename_i neighborFresh
        rw [Bool.not_eq_true] at neighborFresh
        split
        · rename_i left right fired
          obtain ⟨reaction, applies, outcome⟩ := exists_of_tryReact fired
          obtain ⟨rfl, rfl⟩ := Prod.mk.inj outcome
          exact .fires next fresh neighborFresh applies _
        · exact induction later _

theorem reacts (rules : RuleSet) (window : Window) (site : Site size)
    (progress : Progress size σ) :
    Reacts rules window.edge site progress.board progress.tally
      (progress.react rules window site) := by
  rw [react]
  dsimp only
  split
  · exact .idle _
  · rename_i able
    simp only [Bool.or_eq_true, not_or, Bool.not_eq_true] at able
    refine reacts_actOn (fun neighbor listed => ?_) able.1.2 _ _
    refine Window.adjacent_of_mem_around (fun offset given => ?_) listed
    simpa [mem_shuffle] using given

end Progress
end FallingSand
