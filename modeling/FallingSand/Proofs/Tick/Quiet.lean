import FallingSand.Proofs.Mod.Table
import FallingSand.Proofs.Tick.MovedOnce
import FallingSand.Proofs.Tick.Settling
import FallingSand.Proofs.Turn.Advance

/-!
# Quiet ticks

Whatever writes an element to the board is counted: a transition, a reaction, or a move that leads
anywhere.  A particle that comes back to its place has not exchanged anything.  So when nothing has
been counted in a tick, every cell holds the element that it held before.
-/

namespace FallingSand

namespace Tally

theorem addMoved_ne_zero (tally : Tally) : tally.addMoved ≠ zero := by
  simp [addMoved, zero]

theorem addTransition_ne_zero (tally : Tally) : tally.addTransition ≠ zero := by
  simp [addTransition, zero]

theorem addReaction_ne_zero (tally : Tally) : tally.addReaction ≠ zero := by
  simp [addReaction, zero]

end Tally

/-! ## Phases -/

namespace Board

variable {size : Size} {before board : Board size} {tally : Tally}

/-- Something has been counted, or every cell holds the element that it held before. -/
def Accounts (before board : Board size) (tally : Tally) : Prop :=
  tally = Tally.zero → ∀ site, (board.cell site).element = (before.cell site).element

theorem Accounts.clear (accounts : before.Accounts board tally) (phase : Phase) :
    before.Accounts (phase.clear board) tally := by
  intro quiet site
  rw [Phase.element_clear]
  exact accounts quiet site

end Board

namespace Phase

variable {size : Size}

/-- Every phase counts what it does. -/
theorem keeps_accounts (phase : Phase) (rules : RuleSet) (edge : Edge) (before : Board size) :
    phase.Keeps rules edge before.Accounts := by
  cases phase with
  | change =>
      refine change_keeps fun turn accounts => ?_
      cases turn with
      | idle _ => exact accounts
      | fires _ _ => exact fun quiet => absurd quiet (Tally.addTransition_ne_zero _)
  | move =>
      refine move_keeps fun reach site progress accounts => ?_
      rcases progress.move_counts rules.elements ⟨edge, reach⟩ site with ⟨still, same⟩ | counted
      · rw [still, same]
        exact accounts
      · rw [counted]
        exact fun quiet => absurd quiet (Tally.addMoved_ne_zero _)
  | react =>
      refine react_keeps fun turn accounts => ?_
      cases turn with
      | idle _ => exact accounts
      | fires _ _ _ _ _ => exact fun quiet => absurd quiet (Tally.addReaction_ne_zero _)

end Phase

/-! ## Without rules -/

section NoRules

variable {rules : RuleSet} (noReactions : rules.reactions = [])
  (noTransitions : rules.transitions = [])

include noReactions noTransitions

theorem Phase.keeps_ruleless {size : Size} (phase : Phase) (edge : Edge) :
    phase.Keeps rules edge fun (_ : Board size) tally =>
      tally.transitions = 0 ∧ tally.reactions = 0 := by
  cases phase with
  | change =>
      refine change_keeps fun turn moves => ?_
      cases turn with
      | idle _ => exact moves
      | fires applies _ =>
          rw [RuleSet.mem_transitionsFor, noTransitions] at applies
          exact absurd applies.1 List.not_mem_nil
  | move =>
      refine move_keeps fun reach site progress moves => ?_
      rcases progress.move_counts rules.elements ⟨edge, reach⟩ site with ⟨-, same⟩ | counted
      · rwa [same]
      · rwa [counted]
  | react =>
      refine react_keeps fun turn moves => ?_
      cases turn with
      | idle _ => exact moves
      | fires _ _ _ applies _ =>
          rw [RuleSet.mem_reactionsFor, noReactions] at applies
          exact absurd applies.1 List.not_mem_nil

/-- Without reactions and transitions, a tick is quiet when nothing has moved. -/
theorem isQuiet_step_of_still {σ : Type} [RandomSource σ] {grid : Grid} {source : σ}
    (still : (grid.step rules source).1.moved = 0) :
    (grid.step rules source).1.isQuiet = true := by
  have moves : (grid.step rules source).1.transitions = 0 ∧
      (grid.step rules source).1.reactions = 0 :=
    List.foldlRecOn (motive := fun progress : Progress grid.size σ =>
      progress.tally.transitions = 0 ∧ progress.tally.reactions = 0) Phase.all
        (Phase.runWhole rules grid.edge) ⟨rfl, rfl⟩ fun progress moves phase _ =>
          (phase.keeps_ruleless noReactions noTransitions grid.edge).runWhole progress moves
  rw [Tally.isQuiet_iff, Tally.zero, Tally.mk.injEq]
  exact ⟨still, moves⟩

end NoRules

/-! ## Ticks -/

/-- If nothing has been counted in a tick, over the whole grid or over bands, then every cell holds
the same element after the tick as before. -/
theorem same_elements_of_quiet (rules : RuleSet) (grid : Grid) :
    (∀ (σ : Type) [RandomSource σ] (source : σ),
      let outcome := grid.step rules source
      outcome.1.isQuiet = true → ∀ site : Site grid.size,
        (outcome.2.1.board.cell site).element = (grid.board.cell site).element) ∧
    ∀ (bands : List Rows) (seed : UInt64),
      let outcome := grid.stepBanded rules bands seed
      outcome.1.isQuiet = true → ∀ site : Site grid.size,
        (outcome.2.board.cell site).element = (grid.board.cell site).element := by
  constructor
  · intro σ _ source outcome quiet
    refine List.foldlRecOn (motive := fun progress : Progress grid.size σ =>
      grid.board.Accounts progress.board progress.tally) Phase.all
        (Phase.runWhole rules grid.edge) (fun _ _ => rfl) ?_ ((Tally.isQuiet_iff _).mp quiet)
    intro progress accounts phase _
    exact (phase.keeps_accounts rules grid.edge grid.board).runWhole progress
      (accounts.clear phase)
  · intro bands seed outcome quiet
    refine List.foldlRecOn (motive := fun state : Board grid.size × Tally =>
      grid.board.Accounts state.1 state.2) Phase.all
        (Phase.runBanded rules grid.edge bands seed grid.tick) (fun _ _ => rfl) ?_
          ((Tally.isQuiet_iff _).mp quiet)
    intro state accounts phase _
    exact (phase.keeps_accounts rules grid.edge grid.board).runBanded bands seed grid.tick state
      (accounts.clear phase)

/-- Sand that lies at the bottom of a column. -/
def sunk : Board shaft :=
  (Board.empty shaft).fill (shaft.sites ⟨1, 3⟩) (Cell.ofElement ⟨1⟩)

theorem sunk_keeps_elements :
    let outcome := Grid.step pouring ⟨shaft, .wall, 0, sunk⟩ (Xoshiro.ofSeed 7)
    outcome.1.isQuiet = true ∧ ∀ site : Site shaft,
      (outcome.2.1.board.cell site).element = (sunk.cell site).element := by
  intro outcome
  have falling : sunk.Falling pouring.elements := by
    intro site
    rw [sunk, Board.cell_fill]
    split
    · exact Or.inr (by decide)
    · exact Or.inl (Board.isEmpty_cell_empty site)
  have numbers (id : ElementId) : (pouring.elements.properties id).density.isNaN = false := by
    have all : ∀ element ∈ pouring.elements.entries, element.properties.density.isNaN = false := by
      decide
    exact all _ (pouring.elements.get_mem id)
  have quiet : outcome.1.isQuiet = true := by
    refine isQuiet_step_of_still rfl rfl ?_
    obtain ⟨-, ⟨still, -⟩ | fewer⟩ := lowers_step rfl rfl numbers
      (⟨rfl, rfl, falling⟩ : Grid.Sinking pouring.elements 3 ⟨shaft, .wall, 0, sunk⟩)
      (Xoshiro.ofSeed 7)
    · exact still
    · have settled : pouring.elements.inversions sunk.column = 0 := by decide
      exact absurd fewer (settled ▸ Nat.not_lt_zero _)
  exact ⟨quiet, (same_elements_of_quiet pouring ⟨shaft, .wall, 0, sunk⟩).1 Xoshiro _ quiet⟩

end FallingSand
