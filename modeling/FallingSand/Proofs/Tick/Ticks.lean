import FallingSand.Proofs.Tick.Phases
import FallingSand.Simulation

/-!
# What ticks keep

A property of boards that every phase keeps and that does not depend on marks is kept by ticks, over
the whole grid and over bands, and by simulations for any number of ticks.
-/

namespace FallingSand

/-- Every phase keeps the property, wherever and however it is run, and so does wiping marks off. -/
structure RuleSet.Keeps (rules : RuleSet) (P : ∀ size : Size, Board size → Prop) : Prop where
  /-- Wiping marks off keeps it. -/
  clear {size : Size} (phase : Phase) {board : Board size} (holds : P size board) :
    P size (phase.clear board)
  /-- Running a phase keeps it. -/
  run {size : Size} (phase : Phase) (edge : Edge) :
    phase.Keeps rules edge fun (board : Board size) _ => P size board

namespace RuleSet.Keeps

variable {rules : RuleSet} {P : ∀ size : Size, Board size → Prop}

theorem step {σ : Type} [RandomSource σ] (kept : rules.Keeps P) (grid : Grid) (source : σ)
    (holds : P grid.size grid.board) : P _ (grid.step rules source).2.1.board :=
  List.foldlRecOn (motive := fun progress : Progress grid.size σ => P grid.size progress.board)
    Phase.all (Phase.runWhole rules grid.edge) holds fun progress holds phase _ =>
      (kept.run phase grid.edge).runWhole progress (kept.clear phase holds)

theorem stepBanded (kept : rules.Keeps P) (bands : List Rows) (seed : UInt64) (grid : Grid)
    (holds : P grid.size grid.board) : P _ (grid.stepBanded rules bands seed).2.board :=
  List.foldlRecOn (motive := fun state : Board grid.size × Tally => P grid.size state.1)
    Phase.all (Phase.runBanded rules grid.edge bands seed grid.tick) holds
      fun state holds phase _ =>
        (kept.run phase grid.edge).runBanded bands seed grid.tick state (kept.clear phase holds)

end RuleSet.Keeps

namespace Simulation

variable {simulation : Simulation}

/-- What every tick keeps, a run keeps. -/
theorem run_induction {P : Simulation → Prop}
    (kept : ∀ simulation, P simulation → P simulation.tick.2) (holds : P simulation)
    (count : Nat) : P (simulation.run count).2 := by
  induction count generalizing simulation with
  | zero => exact holds
  | succ count induction => exact induction (kept simulation holds)

theorem rules_tick : simulation.tick.2.rules = simulation.rules := by
  rw [tick]
  split <;> rfl

variable {P : ∀ size : Size, Board size → Prop}

theorem tick_keeps (kept : simulation.rules.Keeps P)
    (holds : P _ simulation.grid.board) : P _ simulation.tick.2.grid.board := by
  by_cases several : 1 < simulation.bands.length
  · rw [tick, if_pos several]
    exact kept.stepBanded simulation.bands simulation.setup.seed simulation.grid holds
  · rw [tick, if_neg several]
    exact kept.step simulation.grid simulation.source holds

theorem run_keeps (kept : simulation.rules.Keeps P) (holds : P _ simulation.grid.board)
    (count : Nat) : P _ (simulation.run count).2.grid.board := by
  refine (run_induction (P := fun simulation =>
    simulation.rules.Keeps P ∧ P _ simulation.grid.board) ?_ ⟨kept, holds⟩ count).2
  rintro simulation ⟨kept, holds⟩
  exact ⟨by rwa [rules_tick], tick_keeps kept holds⟩

end Simulation
end FallingSand
