import FallingSand.Proofs.Grid.Totals
import FallingSand.Proofs.Tick.Movement
import FallingSand.Proofs.Tick.Settling
import FallingSand.Proofs.Tick.Ticks
import FallingSand.Proofs.Turn.Firing
import Mathlib.Algebra.Order.BigOperators.Group.Finset

/-!
# Weights that rules keep

Elements are given weights that every transition and every reaction keeps: what comes out weighs as
much as what goes in.  Movement only rearranges cells, so then all cells together weigh the same
after every turn, every phase and every tick, however the ticks are run and however many there are.
-/

namespace FallingSand

variable {size : Size} {weigh : ElementId → Int} {rules : RuleSet}

/-! ## The weight of a board -/

/-- The weights of all cells together. -/
def Board.weight (board : Board size) (weigh : ElementId → Int) : Int :=
  ∑ site, weigh (board.cell site).element

namespace Board

theorem weight_eq (board : Board size) (weigh : ElementId → Int) :
    board.weight weigh = ((board.elementsIn Finset.univ).map weigh).sum := by
  rw [elementsIn, Multiset.map_map]
  rfl

/-- Replacing a cell replaces its weight. -/
theorem weight_put (board : Board size) (weigh : ElementId → Int) (site : Site size)
    (cell : Cell) :
    (board.put site cell).weight weigh + weigh (board.cell site).element =
      board.weight weigh + weigh cell.element :=
  board.total_put (fun _ cell => weigh cell.element) site cell

end Board

theorem Phase.weight_clear (phase : Phase) (board : Board size) :
    (phase.clear board).weight weigh = board.weight weigh := by
  refine Finset.sum_congr rfl fun site _ => ?_
  rw [phase.element_clear]

/-! ## Rules that keep the weights -/

/-- What comes out of every rule weighs as much as what goes in. -/
structure RuleSet.Balances (rules : RuleSet) (weigh : ElementId → Int) : Prop where
  /-- An element weighs as much as what it may become. -/
  transitions : ∀ transition ∈ rules.transitions,
    weigh transition.target = weigh transition.element
  /-- Two neighbors together weigh as much as what they may become. -/
  reactions : ∀ reaction ∈ rules.reactions,
    weigh reaction.outLeft + weigh reaction.outRight = weigh reaction.left + weigh reaction.right

namespace Progress

variable {σ : Type} {edge : Edge} {site : Site size} {board : Board size} {tally : Tally}
  {result : Bool × Progress size σ}

theorem Changes.weight (turn : Changes rules site board tally result)
    (balanced : rules.Balances weigh) : result.2.board.weight weigh = board.weight weigh := by
  cases turn with
  | idle _ => rfl
  | @fires transition applies _ =>
      obtain ⟨listed, stands⟩ := RuleSet.mem_transitionsFor.mp applies
      have kept := balanced.transitions transition listed
      have put := board.weight_put weigh site (Cell.ofElement transition.target)
      rw [← stands] at put
      simp only [Cell.ofElement] at put ⊢
      omega

theorem Reacts.weight (turn : Reacts rules edge site board tally result)
    (balanced : rules.Balances weigh) : result.2.board.weight weigh = board.weight weigh := by
  cases turn with
  | idle _ => rfl
  | @fires neighbor adjacent _ _ reaction applies _ =>
      obtain ⟨listed, left, right⟩ := RuleSet.mem_reactionsFor.mp applies
      have kept := balanced.reactions reaction listed
      have first := board.weight_put weigh site (Cell.ofReacted reaction.outLeft)
      have second := (board.put site (Cell.ofReacted reaction.outLeft)).weight_put weigh
        neighbor (Cell.ofReacted reaction.outRight)
      rw [← left] at first
      rw [Board.cell_put_of_ne _ _ adjacent.1.symm, ← right] at second
      simp only [Cell.ofReacted] at first second ⊢
      omega

end Progress

/-- Every phase keeps the weight of a board. -/
theorem Phase.keeps_weight (balanced : rules.Balances weigh) (phase : Phase) (edge : Edge)
    (total : Int) : phase.Keeps rules edge fun (board : Board size) _ =>
      board.weight weigh = total := by
  cases phase with
  | change => exact change_keeps fun turn weighs => (turn.weight balanced).trans weighs
  | move =>
      intro σ _ reach rows progress weighs
      have rearranged : Rearranged rules.elements edge progress.board
          (Phase.move.run rules ⟨edge, reach⟩ rows progress).board :=
        move_keeps_rearranged rules edge progress.board σ reach rows progress
          (.of_clearMoved fun _ => rfl)
      have elements := rearranged.elementsIn_eq fun _ _ _ _ => Finset.mem_univ _
      rw [Board.weight_eq, elements, ← Board.weight_eq]
      exact weighs
  | react => exact react_keeps fun turn weighs => (turn.weight balanced).trans weighs

/-! ## Ticks -/

section Ticks

variable (balanced : rules.Balances weigh)

include balanced

theorem RuleSet.keeps_weight (total : Int) :
    rules.Keeps fun _ board => board.weight weigh = total where
  clear phase _ weighs := (phase.weight_clear _).trans weighs
  run phase edge := Phase.keeps_weight balanced phase edge total

theorem Grid.weight_step {σ : Type} [RandomSource σ] (grid : Grid) (source : σ) :
    (grid.step rules source).2.1.board.weight weigh = grid.board.weight weigh :=
  (RuleSet.keeps_weight balanced _).step grid source rfl

theorem Grid.weight_stepBanded (bands : List Rows) (seed : UInt64) (grid : Grid) :
    (grid.stepBanded rules bands seed).2.board.weight weigh = grid.board.weight weigh :=
  (RuleSet.keeps_weight balanced _).stepBanded bands seed grid rfl

end Ticks

theorem Simulation.weight_run {simulation : Simulation}
    (balanced : simulation.rules.Balances weigh) (count : Nat) :
    (simulation.run count).2.grid.board.weight weigh = simulation.grid.board.weight weigh :=
  run_keeps (RuleSet.keeps_weight balanced _) rfl count

/-- The grid one tick over bands later. -/
def Grid.advanceBanded (rules : RuleSet) (bands : List Rows) (seed : UInt64) (grid : Grid) : Grid :=
  (grid.stepBanded rules bands seed).2

/-- Under rules that keep the weights of elements, all cells together weigh the same after any
number of ticks, be it over the whole grid with any source of randomness, over any bands with any
seed, or as any setup says. -/
theorem weight_conserved (balanced : rules.Balances weigh) (grid : Grid) (count : Nat) :
    (∀ (σ : Type) [RandomSource σ] (source : σ),
      ((Grid.advance rules)^[count] (grid, source)).1.board.weight weigh =
        grid.board.weight weigh) ∧
    (∀ (bands : List Rows) (seed : UInt64),
      ((Grid.advanceBanded rules bands seed)^[count] grid).board.weight weigh =
        grid.board.weight weigh) ∧
    ∀ setup : Setup,
      ((Simulation.ofGrid rules setup grid).run count).2.grid.board.weight weigh =
        grid.board.weight weigh := by
  refine ⟨fun σ _ source => ?_, fun bands seed => ?_, fun setup => ?_⟩
  · induction count with
    | zero => rfl
    | succ count induction =>
        rw [Function.iterate_succ_apply']
        exact (Grid.weight_step balanced _ _).trans induction
  · induction count with
    | zero => rfl
    | succ count induction =>
        rw [Function.iterate_succ_apply']
        exact (Grid.weight_stepBanded balanced _ _ _).trans induction
  · have given : (Simulation.ofGrid rules setup grid).rules.Balances weigh := balanced
    exact Simulation.weight_run given count

/-- Ice that melts, and water that carries salt off. -/
def thawing : RuleSet :=
  RuleSet.ofRules none (Catalog.initial.resolveAll fun _ => []) Registry.empty
    [{ probability := Single.half, left := ⟨2⟩, right := ⟨3⟩, outLeft := ⟨4⟩,
        outRight := ElementId.empty, source := ⟨1, 0⟩ }]
    [{ probability := Single.half, element := ⟨1⟩, target := ⟨2⟩, source := ⟨0, 0⟩ }]

/-- Ice and water weigh two, salt weighs three, and brine what water and salt weigh together. -/
def mass (element : ElementId) : Int :=
  match element.toNat with
  | 1 => 2
  | 2 => 2
  | 3 => 3
  | 4 => 5
  | _ => 0

theorem thawing_weight : thawing.Balances mass ∧
    ∀ (grid : Grid) (seed : UInt64),
      ((Grid.advanceBanded thawing (bandRows grid.size.height 2) seed)^[9] grid).board.weight mass =
        grid.board.weight mass := by
  have balanced : thawing.Balances mass := ⟨by decide, by decide⟩
  exact ⟨balanced, fun grid seed => (weight_conserved balanced grid 9).2.1 _ seed⟩

end FallingSand
