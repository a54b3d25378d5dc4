import FallingSand.Proofs.Snapshot.Loading
import FallingSand.Proofs.Tick.Known
import FallingSand.Proofs.Tick.Marks

/-!
# Resuming from a snapshot

A simulation over bands draws its randomness from its seed and the number of the tick, and what it
does depends on no marks.  So everything that matters is in a snapshot: a simulation that is kept,
loaded and set up again goes on as if nothing had happened.
-/

namespace FallingSand
namespace Simulation

variable {rules : RuleSet} {setup : Setup} {simulation one other : Simulation}

/-! ## Runs in parts -/

theorem run_add (simulation : Simulation) (first second : Nat) :
    simulation.run (first + second) =
      ((simulation.run first).1.merge ((simulation.run first).2.run second).1,
        ((simulation.run first).2.run second).2) := by
  induction first generalizing simulation with
  | zero => rw [Nat.zero_add, run, Tally.zero_merge]
  | succ first induction =>
      rw [Nat.succ_add, run, run]
      dsimp only
      rw [induction, Tally.merge_assoc]

/-! ## Simulations of a setup -/

/-- The simulation has been set up with the rules and the setup, and its grid has kept its size and
its edge since then.  The bands are stored as they suit the height at setup, so a simulation into
which a grid of another height has been put later is not covered. -/
structure Stems (simulation : Simulation) (rules : RuleSet) (setup : Setup) : Prop where
  /-- The rules are those. -/
  rules_eq : simulation.rules = rules
  /-- The setup is that with the size of the grid. -/
  setup_eq : simulation.setup =
    { setup with width := simulation.grid.size.width, height := simulation.grid.size.height }
  /-- The edge is that of the setup. -/
  edge_eq : simulation.grid.edge = setup.edge
  /-- The bands are as many as the setup asks for and the grid allows. -/
  bands_eq : simulation.bands = bandRows simulation.grid.size.height setup.bands

theorem stems_ofGrid (rules : RuleSet) (setup : Setup) (grid : Grid) :
    (ofGrid rules setup grid).Stems rules setup :=
  ⟨rfl, rfl, rfl, rfl⟩

namespace Stems

theorem tick (stems : simulation.Stems rules setup) : simulation.tick.2.Stems rules setup := by
  obtain ⟨sameRules, sameSetup, edge, bands⟩ := stems
  rw [Simulation.tick]
  split
  · exact ⟨sameRules, sameSetup, edge, bands⟩
  · exact ⟨sameRules, sameSetup, edge, bands⟩

theorem run (stems : simulation.Stems rules setup) (count : Nat) :
    (simulation.run count).2.Stems rules setup :=
  run_induction (P := fun simulation => simulation.Stems rules setup) (fun _ => Stems.tick) stems
    count

variable (stems : one.Stems rules setup) (others : other.Stems rules setup)
  (several : 1 < one.bands.length) (alike : one.grid.Alike other.grid)

include stems others several alike

/-- Over bands, a tick does the same in two simulations of one setup whose grids are alike. -/
theorem tick_alike :
    one.tick.1 = other.tick.1 ∧ one.tick.2.grid.Alike other.tick.2.grid ∧
      1 < one.tick.2.bands.length := by
  have bands : one.bands = other.bands := by
    rw [stems.bands_eq, others.bands_eq, alike.size_eq]
  have same := alike.stepBanded rules one.bands setup.seed
  rw [Simulation.tick, if_pos several, Simulation.tick, if_pos (bands ▸ several), stems.rules_eq,
    others.rules_eq, stems.setup_eq, others.setup_eq, ← bands]
  exact ⟨same.1, same.2, several⟩

theorem run_alike (count : Nat) :
    (one.run count).1 = (other.run count).1 ∧
      (one.run count).2.grid.Alike (other.run count).2.grid := by
  induction count generalizing one other with
  | zero => exact ⟨rfl, alike⟩
  | succ count induction =>
      obtain ⟨tallies, grids, more⟩ := stems.tick_alike others several alike
      obtain ⟨later, ends⟩ := induction stems.tick others.tick more grids
      refine ⟨?_, ends⟩
      rw [Simulation.run, Simulation.run]
      dsimp only
      rw [tallies, later]

end Stems

theorem size_tick (simulation : Simulation) :
    simulation.tick.2.grid.size = simulation.grid.size := by
  rw [tick]
  split <;> rfl

theorem size_run (simulation : Simulation) (count : Nat) :
    (simulation.run count).2.grid.size = simulation.grid.size :=
  run_induction (P := fun later => later.grid.size = simulation.grid.size)
    (fun later same => later.size_tick.trans same) rfl count

end Simulation

/-- A simulation of a mod that runs over bands can be interrupted after any number of ticks: its
snapshot can be loaded, and a simulation that is set up anew over the loaded grid goes on with the
same tallies to the same snapshots as if there had been no interruption. -/
theorem resumes {declarations : Declarations} {rules : RuleSet} {setup : Setup}
    {simulation : Simulation} (compiled : declarations.compile = .ok rules)
    (stems : simulation.Stems rules setup)
    (several : 1 < (bandRows simulation.grid.size.height setup.bands).length)
    (known : simulation.grid.board.Known rules.elements) (first second : Nat) :
    let table := rules.elements
    let paused := (simulation.run first).2
    ∃ grid, Grid.ofSnapshot table (paused.grid.snapshot table) = .ok grid ∧
      let resumed := (Simulation.ofGrid rules setup grid).run second
      let unbroken := simulation.run (first + second)
      resumed.2.grid.snapshot table = unbroken.2.grid.snapshot table ∧
        resumed.1 = (paused.run second).1 ∧
        unbroken =
          ((simulation.run first).1.merge (paused.run second).1, (paused.run second).2) := by
  intro table paused
  have kept : simulation.rules.Keeps fun _ board => board.Known table := by
    rw [stems.rules_eq]
    exact (Declarations.closed_of_compile compiled).keeps_known
  have loads := Grid.ofSnapshot_snapshot (Declarations.named_of_compile compiled) paused.grid
    (Simulation.run_keeps kept known first)
  have pausedStems : paused.Stems rules setup := stems.run first
  refine ⟨_, loads, ?_⟩
  generalize set : Simulation.ofGrid rules setup _ = restored
  have restoredStems : restored.Stems rules setup := set ▸ Simulation.stems_ofGrid rules setup _
  have alike : restored.grid.Alike paused.grid := by
    rw [← set, Simulation.ofGrid, ← pausedStems.edge_eq]
    exact paused.grid.alike_bare
  have bands : 1 < restored.bands.length := by
    rwa [restoredStems.bands_eq, alike.size_eq, simulation.size_run]
  obtain ⟨tallies, grids⟩ := restoredStems.run_alike pausedStems bands alike second
  rw [simulation.run_add first second]
  exact ⟨grids.snapshot_eq table, tallies, rfl⟩

/-- Three rows of acid above three of salt and six of nothing. -/
def corroding : Board ⟨5, 12, by decide, by decide, by decide⟩ :=
  ((Board.empty _).fill (Size.sites _ ⟨0, 3⟩) (Cell.ofElement ⟨1⟩)).fill
    (Size.sites _ ⟨3, 6⟩) (Cell.ofElement ⟨2⟩)

theorem corroding_resumes : ∃ rules, dissolving.compile = .ok rules ∧
    let setup := { Setup.standard with bands := 3, seed := 7 }
    let simulation := Simulation.ofGrid rules setup ⟨_, .wrap, 5, corroding⟩
    1 < simulation.bands.length ∧ simulation.grid.board.Known rules.elements ∧
      ∀ first second, ∃ grid,
        Grid.ofSnapshot rules.elements ((simulation.run first).2.grid.snapshot rules.elements) =
          .ok grid ∧
        ((Simulation.ofGrid rules setup grid).run second).2.grid.snapshot rules.elements =
          (simulation.run (first + second)).2.grid.snapshot rules.elements := by
  obtain ⟨rules, compiled⟩ := compiles_dissolving
  obtain ⟨acid, salt⟩ := knows_dissolving compiled
  have known : corroding.Known rules.elements :=
    ((Board.known_empty _ _).fill _ acid).fill _ salt
  have several : 1 < (bandRows 12 3).length := by decide
  refine ⟨rules, compiled, several, known, fun first second => ?_⟩
  obtain ⟨grid, loads, same, -⟩ := resumes compiled
    (Simulation.stems_ofGrid rules { Setup.standard with bands := 3, seed := 7 }
      ⟨_, .wrap, 5, corroding⟩) several known first second
  exact ⟨grid, loads, same⟩

end FallingSand
