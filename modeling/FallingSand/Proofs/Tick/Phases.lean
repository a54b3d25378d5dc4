import FallingSand.Proofs.Turn.Firing
import FallingSand.Tick.Step

/-!
# What a phase keeps

A phase runs over the whole board with one source of randomness, or band by band with a generator
for each.  What each of its turns keeps of a board and a tally, the phase keeps.  Whatever it keeps
over any rows, within any rows that can be reached and for any source, it keeps in both ways of
running.
-/

namespace FallingSand
namespace Phase

variable {size : Size} {phase : Phase} {rules : RuleSet} {edge : Edge}
  {P : Board size → Tally → Prop}

/-- Wiping marks off leaves the elements. -/
theorem element_clear (phase : Phase) (board : Board size) (site : Site size) :
    ((phase.clear board).cell site).element = (board.cell site).element := by
  rw [cell_clear]
  cases phase <;> rfl

/-- Running the phase keeps a property of boards and tallies, wherever and however it is run. -/
def Keeps (phase : Phase) (rules : RuleSet) (edge : Edge) (P : Board size → Tally → Prop) : Prop :=
  ∀ (σ : Type) [RandomSource σ] (reach rows : Rows) (progress : Progress size σ),
    P progress.board progress.tally →
      P (phase.run rules ⟨edge, reach⟩ rows progress).board
        (phase.run rules ⟨edge, reach⟩ rows progress).tally

/-- What every turn to change keeps, the phase keeps. -/
theorem change_keeps
    (kept : ∀ {σ : Type} {site : Site size} {board : Board size} {tally : Tally}
      {result : Bool × Progress size σ}, Progress.Changes rules site board tally result →
        P board tally → P result.2.board result.2.tally) :
    Phase.change.Keeps rules edge P := by
  intro σ _ reach rows progress holds
  rw [run, Progress.changeAll]
  dsimp only
  rw [← Array.foldl_toList]
  exact List.foldlRecOn (motive := fun progress : Progress size σ =>
    P progress.board progress.tally) _ _ holds
      fun progress holds site _ => kept (progress.changes rules site) holds

/-- What every turn to react keeps, the phase keeps. -/
theorem react_keeps
    (kept : ∀ {σ : Type} {site : Site size} {board : Board size} {tally : Tally}
      {result : Bool × Progress size σ}, Progress.Reacts rules edge site board tally result →
        P board tally → P result.2.board result.2.tally) :
    Phase.react.Keeps rules edge P := by
  intro σ _ reach rows progress holds
  rw [run, Progress.reactAll]
  dsimp only
  rw [← Array.foldl_toList]
  exact List.foldlRecOn (motive := fun progress : Progress size σ =>
    P progress.board progress.tally) _ _ holds
      fun progress holds site _ => kept (progress.reacts rules ⟨edge, reach⟩ site) holds

/-- What every turn to move keeps, the phase keeps. -/
theorem move_keeps
    (kept : ∀ {σ : Type} [RandomSource σ] (reach : Rows) (site : Site size)
      (progress : Progress size σ), P progress.board progress.tally →
        P (progress.move rules.elements ⟨edge, reach⟩ site).2.board
          (progress.move rules.elements ⟨edge, reach⟩ site).2.tally) :
    Phase.move.Keeps rules edge P := by
  intro σ _ reach rows progress holds
  rw [run, Progress.moveAll]
  exact List.foldlRecOn (motive := fun progress : Progress size σ =>
    P progress.board progress.tally) _ _ holds
      fun progress holds mover _ => kept reach mover.site progress holds

theorem Keeps.runWhole {σ : Type} [RandomSource σ] (kept : phase.Keeps rules edge P)
    (progress : Progress size σ) (holds : P (phase.clear progress.board) progress.tally) :
    P (phase.runWhole rules edge progress).board (phase.runWhole rules edge progress).tally :=
  kept σ size.rows size.rows (progress.enter phase) holds

theorem Keeps.runBand (kept : phase.Keeps rules edge P) (seed tick : UInt64)
    (state : Board size × Tally) (band : Rows × Nat) (holds : P state.1 state.2) :
    P (phase.runBand rules edge seed tick state band).1
      (phase.runBand rules edge seed tick state band).2 :=
  kept Xoshiro _ _ _ holds

theorem Keeps.runBanded (kept : phase.Keeps rules edge P) (bands : List Rows) (seed tick : UInt64)
    (state : Board size × Tally) (holds : P (phase.clear state.1) state.2) :
    P (phase.runBanded rules edge bands seed tick state).1
      (phase.runBanded rules edge bands seed tick state).2 :=
  List.foldlRecOn (motive := fun state : Board size × Tally => P state.1 state.2) _ _ holds
    fun state holds band _ => kept.runBand seed tick state band holds

end Phase
end FallingSand
