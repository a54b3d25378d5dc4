import FallingSand.Tick.Step

/-!
# Simulations

A simulation advances a grid by the rules of a mod.  Its setup says how: over the whole grid with
one seeded generator, or over several bands.
-/

namespace FallingSand

/-- How to set a simulation up. -/
structure Setup where
  /-- Width of the grid. -/
  width : Nat
  /-- Height of the grid. -/
  height : Nat
  /-- What lies beyond the left and right edges. -/
  edge : Edge
  /-- The number of bands wished for. -/
  bands : Nat
  /-- The seed of all randomness. -/
  seed : UInt64
  deriving DecidableEq

/-- The setup where nothing else is said. -/
def Setup.standard : Setup where
  width := 128
  height := 96
  edge := .wall
  bands := 1
  seed := 0

/-- A grid that is advanced by rules. -/
structure Simulation where
  /-- The rules. -/
  rules : RuleSet
  /-- How it was set up, with the size of its grid. -/
  setup : Setup
  /-- The grid. -/
  grid : Grid
  /-- The generator for ticks over the whole grid. -/
  source : Xoshiro
  /-- The bands of the grid. -/
  bands : List Rows
  /-- What has happened so far. -/
  totals : Tally

namespace Simulation

/-- Set a simulation up over a grid, which keeps its size but takes the kind of edge from the
setup. -/
def ofGrid (rules : RuleSet) (setup : Setup) (grid : Grid) : Simulation where
  rules
  setup := { setup with width := grid.size.width, height := grid.size.height }
  grid := { grid with edge := setup.edge }
  source := Xoshiro.ofSeed setup.seed
  bands := bandRows grid.size.height setup.bands
  totals := Tally.zero

/-- Set a simulation up over an unoccupied grid. -/
def create (rules : RuleSet) (setup : Setup) : Except GridFault Simulation := do
  let grid ← Grid.create setup.width setup.height setup.edge
  return ofGrid rules setup grid

/-- Advance by one tick: over bands if there is more than one. -/
def tick (simulation : Simulation) : Tally × Simulation :=
  if 1 < simulation.bands.length then
    let (tally, grid) :=
      simulation.grid.stepBanded simulation.rules simulation.bands simulation.setup.seed
    (tally, { simulation with grid, totals := simulation.totals.merge tally })
  else
    let (tally, grid, source) := simulation.grid.step simulation.rules simulation.source
    (tally, { simulation with grid, source, totals := simulation.totals.merge tally })

/-- Advance by some ticks; tells what happened in all of them together. -/
def run (simulation : Simulation) : Nat → Tally × Simulation
  | 0 => (Tally.zero, simulation)
  | count + 1 =>
      let (first, simulation) := simulation.tick
      let (rest, simulation) := simulation.run count
      (first.merge rest, simulation)

end Simulation
end FallingSand
