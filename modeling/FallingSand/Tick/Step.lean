import FallingSand.Grid
import FallingSand.Random.Xoshiro
import FallingSand.Tick.Bands

/-!
# Ticks

A tick runs the three phases one after the other, either over the whole grid with one source of
randomness, or band by band with a generator of its own for every band.
-/

namespace FallingSand
namespace Phase

variable {size : Size} {σ : Type} [RandomSource σ]

/-- Run a phase over a whole board. -/
def runWhole (rules : RuleSet) (edge : Edge) (progress : Progress size σ) (phase : Phase) :
    Progress size σ :=
  phase.run rules (Window.whole size edge) size.rows (progress.enter phase)

/-- What a generator of its own makes of one band. -/
def runBand (phase : Phase) (rules : RuleSet) (edge : Edge) (seed tick : UInt64)
    (state : Board size × Tally) (band : Rows × Nat) : Board size × Tally :=
  let (rows, number) := band
  let progress : Progress size Xoshiro :=
    { board := state.1
      tally := state.2
      source := Xoshiro.ofSeed (bandSeed seed tick phase (UInt64.ofNat number)) }
  let after := phase.run rules ⟨edge, rows.widen size.height⟩ rows progress
  (after.board, after.tally)

/-- The bands of one pass: those of even number, or those of odd number. -/
def pass (parity : Nat) (bands : List Rows) : List (Rows × Nat) :=
  bands.zipIdx.filter fun band => band.2 % 2 == parity

/-- Run a phase over all bands of a board. -/
def runBanded (rules : RuleSet) (edge : Edge) (bands : List Rows) (seed tick : UInt64)
    (state : Board size × Tally) (phase : Phase) : Board size × Tally :=
  (pass 0 bands ++ pass 1 bands).foldl (phase.runBand rules edge seed tick)
    (phase.clear state.1, state.2)

end Phase

namespace Grid

/-- One tick over the whole grid. -/
def step {σ : Type} [RandomSource σ] (rules : RuleSet) (grid : Grid) (source : σ) :
    Tally × Grid × σ :=
  let after := Phase.all.foldl (Phase.runWhole rules grid.edge) (Progress.start grid.board source)
  (after.tally, { grid with board := after.board, tick := grid.tick + 1 }, after.source)

/-- One tick over bands. -/
def stepBanded (rules : RuleSet) (bands : List Rows) (seed : UInt64) (grid : Grid) :
    Tally × Grid :=
  let (board, tally) :=
    Phase.all.foldl (Phase.runBanded rules grid.edge bands seed grid.tick)
      (grid.board, Tally.zero)
  (tally, { grid with board, tick := grid.tick + 1 })

end Grid
end FallingSand
