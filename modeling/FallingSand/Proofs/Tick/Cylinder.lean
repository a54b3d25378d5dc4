import FallingSand.Proofs.Tick.Sealed
import FallingSand.Proofs.Tick.Settling
import FallingSand.Proofs.Tick.Weights
import FallingSand.Random.Script

/-!
# A sealed cylinder is a box

Turns are the same over joined edges as between walls as long as the first column is sealed, and
they leave it sealed.  So phases are the same, over the whole grid and in bands, with all that is
drawn in them, and ticks are, however many.
-/

namespace FallingSand

variable {size : Size} {rules : RuleSet} {edge : Edge}

/-! ## Phases -/

namespace Phase

theorem keeps_sealed (phase : Phase) (rules : RuleSet) (edge : Edge) :
    phase.Keeps rules edge fun (board : Board size) _ => board.Sealed rules := by
  cases phase with
  | change => exact change_keeps fun turn isSealed => turn.sealed isSealed
  | move =>
      exact move_keeps fun reach site progress isSealed => progress.sealed_move isSealed _ site
  | react => exact react_keeps fun turn isSealed => turn.sealed isSealed

section Running

variable {σ : Type} [RandomSource σ] {progress : Progress size σ}

theorem run_wrap (phase : Phase) (isSealed : progress.board.Sealed rules) (reach rows : Rows) :
    phase.run rules ⟨.wrap, reach⟩ rows progress =
      phase.run rules ⟨.wall, reach⟩ rows progress := by
  cases phase with
  | change => rfl
  | move =>
      rw [run, run, Progress.moveAll, Progress.moveAll]
      refine foldl_congr_of_kept
        (P := fun progress : Progress size σ => progress.board.Sealed rules) ?_ ?_ isSealed
      · intro progress mover isSealed
        exact progress.sealed_move isSealed ⟨.wall, reach⟩ mover.site
      · intro progress mover isSealed
        rw [Progress.move_wrap isSealed mover.site]
  | react =>
      rw [run, run, Progress.reactAll, Progress.reactAll]
      simp only [← Array.foldl_toList]
      refine foldl_congr_of_kept
        (P := fun progress : Progress size σ => progress.board.Sealed rules) ?_ ?_ isSealed
      · intro progress site isSealed
        exact (progress.reacts rules ⟨.wall, reach⟩ site).sealed isSealed
      · intro progress site isSealed
        rw [Progress.react_wrap isSealed site]

theorem runWhole_wrap (phase : Phase) (isSealed : progress.board.Sealed rules) :
    phase.runWhole rules .wrap progress = phase.runWhole rules .wall progress :=
  have entering : (progress.enter phase).board.Sealed rules := isSealed.clear phase
  phase.run_wrap entering size.rows size.rows

end Running

/-! ### Bands -/

/-- The generator of a band after a phase, with the requests that have been made of it. -/
def generator (phase : Phase) (rules : RuleSet) (edge : Edge) (seed tick : UInt64)
    (state : Board size × Tally) (band : Rows × Nat) : Recorded Xoshiro :=
  let (rows, number) := band
  let progress : Progress size (Recorded Xoshiro) :=
    { board := state.1
      tally := state.2
      source := Recorded.start (Xoshiro.ofSeed (bandSeed seed tick phase (UInt64.ofNat number))) }
  (phase.run rules ⟨edge, rows.widen size.height⟩ rows progress).source

/-- The generators of some bands after a phase, one band after the other. -/
def generators (phase : Phase) (rules : RuleSet) (edge : Edge) (seed tick : UInt64) :
    List (Rows × Nat) → Board size × Tally → List (Recorded Xoshiro)
  | [], _ => []
  | band :: rest, state =>
      phase.generator rules edge seed tick state band ::
        generators phase rules edge seed tick rest (phase.runBand rules edge seed tick state band)

variable {state : Board size × Tally}

theorem sealed_runBand (phase : Phase) (edge : Edge) (seed tick : UInt64) (band : Rows × Nat)
    (isSealed : state.1.Sealed rules) :
    (phase.runBand rules edge seed tick state band).1.Sealed rules :=
  (phase.keeps_sealed rules edge).runBand seed tick state band isSealed

theorem runBand_wrap (phase : Phase) (isSealed : state.1.Sealed rules) (seed tick : UInt64)
    (band : Rows × Nat) :
    phase.runBand rules .wrap seed tick state band =
        phase.runBand rules .wall seed tick state band ∧
      phase.generator rules .wrap seed tick state band =
        phase.generator rules .wall seed tick state band := by
  constructor
  · rw [runBand, runBand, phase.run_wrap isSealed]
  · rw [generator, generator, phase.run_wrap isSealed]

theorem generators_wrap (phase : Phase) (isSealed : state.1.Sealed rules) (seed tick : UInt64)
    (bands : List (Rows × Nat)) :
    phase.generators rules .wrap seed tick bands state =
      phase.generators rules .wall seed tick bands state := by
  induction bands generalizing state with
  | nil => rfl
  | cons band bands induction =>
      obtain ⟨run, drawn⟩ := phase.runBand_wrap isSealed seed tick band
      have later := phase.sealed_runBand .wall seed tick band isSealed
      rw [generators, generators, run, drawn, induction later]

theorem runBanded_wrap (phase : Phase) (isSealed : state.1.Sealed rules) (bands : List Rows)
    (seed tick : UInt64) :
    phase.runBanded rules .wrap bands seed tick state =
      phase.runBanded rules .wall bands seed tick state :=
  foldl_congr_of_kept (P := fun state : Board size × Tally => state.1.Sealed rules)
    (fun _ band isSealed => phase.sealed_runBand .wall seed tick band isSealed)
    (fun _ band isSealed => (phase.runBand_wrap isSealed seed tick band).1)
    (isSealed.clear phase)

end Phase

/-! ## Ticks -/

theorem keeps_sealed (rules : RuleSet) : rules.Keeps fun _ board => board.Sealed rules where
  clear phase _ isSealed := isSealed.clear phase
  run phase edge := phase.keeps_sealed rules edge

namespace Grid

/-- The grid with another kind of edge. -/
def withEdge (grid : Grid) (edge : Edge) : Grid :=
  { grid with edge }

/-- The generators of the bands after each phase of a tick over bands. -/
def generators (rules : RuleSet) (bands : List Rows) (seed : UInt64) (grid : Grid) :
    List (List (Recorded Xoshiro)) :=
  let passing := Phase.pass 0 bands ++ Phase.pass 1 bands
  let run := Phase.runBanded rules grid.edge bands seed grid.tick
  let drawn (phase : Phase) (state : Board grid.size × Tally) :=
    phase.generators rules grid.edge seed grid.tick passing (phase.clear state.1, state.2)
  let changed := run (grid.board, Tally.zero) .change
  let moved := run changed .move
  [drawn .change (grid.board, Tally.zero), drawn .move changed, drawn .react moved]

variable {grid : Grid} (joined : grid.edge = .wrap) (isSealed : grid.board.Sealed rules)

include joined isSealed

theorem step_wrap {σ : Type} [RandomSource σ] (source : σ) :
    let walled := (grid.withEdge .wall).step rules source
    let wrapped := grid.step rules source
    walled.1 = wrapped.1 ∧ walled.2 = (wrapped.2.1.withEdge .wall, wrapped.2.2) := by
  have same : Phase.all.foldl (Phase.runWhole rules .wrap) (Progress.start grid.board source) =
      Phase.all.foldl (Phase.runWhole rules .wall) (Progress.start grid.board source) :=
    foldl_congr_of_kept (P := fun progress : Progress grid.size σ => progress.board.Sealed rules)
      (fun progress phase isSealed =>
        (phase.keeps_sealed rules .wall).runWhole progress (isSealed.clear phase))
      (fun _ phase isSealed => phase.runWhole_wrap isSealed) isSealed
  rw [step, step, joined, same, withEdge]
  exact ⟨rfl, rfl⟩

theorem stepBanded_wrap (bands : List Rows) (seed : UInt64) :
    let walled := (grid.withEdge .wall).stepBanded rules bands seed
    let wrapped := grid.stepBanded rules bands seed
    walled.1 = wrapped.1 ∧ walled.2 = wrapped.2.withEdge .wall := by
  have same : Phase.all.foldl (Phase.runBanded rules .wrap bands seed grid.tick)
      (grid.board, Tally.zero) =
      Phase.all.foldl (Phase.runBanded rules .wall bands seed grid.tick)
        (grid.board, Tally.zero) :=
    foldl_congr_of_kept (P := fun state : Board grid.size × Tally => state.1.Sealed rules)
      (fun state phase isSealed => (phase.keeps_sealed rules .wall).runBanded bands seed grid.tick
        state (isSealed.clear phase))
      (fun _ phase isSealed => phase.runBanded_wrap isSealed bands seed grid.tick) isSealed
  rw [stepBanded, stepBanded, joined, same, withEdge]
  exact ⟨rfl, rfl⟩

theorem generators_wrap (bands : List Rows) (seed : UInt64) :
    (grid.withEdge .wall).generators rules bands seed = grid.generators rules bands seed := by
  have later (state : Board grid.size × Tally) (phase : Phase) (isSealed : state.1.Sealed rules) :
      (phase.runBanded rules .wall bands seed grid.tick state).1.Sealed rules :=
    (phase.keeps_sealed rules .wall).runBanded bands seed grid.tick state (isSealed.clear phase)
  have changed := later (grid.board, Tally.zero) .change isSealed
  have moved := later _ .move changed
  rw [generators, generators, withEdge, joined]
  dsimp only
  rw [Phase.runBanded_wrap .change isSealed, Phase.runBanded_wrap .move changed,
    Phase.generators_wrap .change (isSealed.clear .change),
    Phase.generators_wrap .move (changed.clear .move),
    Phase.generators_wrap .react (moved.clear .react)]

/-! ### Many ticks -/

theorem advance_wrap {σ : Type} [RandomSource σ] (source : σ) (count : Nat) :
    let wrapped := (advance rules)^[count] (grid, source)
    wrapped.1.edge = .wrap ∧ wrapped.1.board.Sealed rules ∧
      (advance rules)^[count] (grid.withEdge .wall, source) =
        (wrapped.1.withEdge .wall, wrapped.2) := by
  induction count with
  | zero => exact ⟨joined, isSealed, rfl⟩
  | succ count induction =>
      rw [Function.iterate_succ_apply', Function.iterate_succ_apply']
      obtain ⟨joined, isSealed, same⟩ := induction
      refine ⟨joined, (keeps_sealed rules).step _ _ isSealed, ?_⟩
      rw [same]
      exact (step_wrap joined isSealed _).2

theorem advanceBanded_wrap (bands : List Rows) (seed : UInt64) (count : Nat) :
    let wrapped := (advanceBanded rules bands seed)^[count] grid
    wrapped.edge = .wrap ∧ wrapped.board.Sealed rules ∧
      (advanceBanded rules bands seed)^[count] (grid.withEdge .wall) = wrapped.withEdge .wall := by
  induction count with
  | zero => exact ⟨joined, isSealed, rfl⟩
  | succ count induction =>
      rw [Function.iterate_succ_apply', Function.iterate_succ_apply']
      obtain ⟨joined, isSealed, same⟩ := induction
      refine ⟨joined, (keeps_sealed rules).stepBanded bands seed _ isSealed, ?_⟩
      rw [same]
      exact (stepBanded_wrap joined isSealed bands seed).2

end Grid

/-- On a grid whose first column is sealed, ticks over joined edges and between walls are the same,
however many have passed: with one source of randomness over the whole grid, the cells, the counters
and the source are the same, and in bands the cells, the counters and every generator with the
requests made of it are. -/
theorem joined_edges_are_walls (grid : Grid) (isSealed : grid.board.Sealed rules) (count : Nat) :
    (∀ (σ : Type) [RandomSource σ] (source : σ),
      let wrapped := (Grid.advance rules)^[count] (grid.withEdge .wrap, source)
      let walled := (Grid.advance rules)^[count] (grid.withEdge .wall, source)
      walled.1 = wrapped.1.withEdge .wall ∧ walled.2 = wrapped.2 ∧
        (walled.1.step rules walled.2).1 = (wrapped.1.step rules wrapped.2).1) ∧
    ∀ (bands : List Rows) (seed : UInt64),
      let wrapped := (Grid.advanceBanded rules bands seed)^[count] (grid.withEdge .wrap)
      let walled := (Grid.advanceBanded rules bands seed)^[count] (grid.withEdge .wall)
      walled = wrapped.withEdge .wall ∧
        (walled.stepBanded rules bands seed).1 = (wrapped.stepBanded rules bands seed).1 ∧
        walled.generators rules bands seed = wrapped.generators rules bands seed := by
  have begins : (grid.withEdge .wrap).board.Sealed rules := isSealed
  constructor
  · intro σ _ source wrapped walled
    obtain ⟨joined, isSealed, same⟩ := Grid.advance_wrap rfl begins source count
    rw [show walled = _ from same]
    exact ⟨rfl, rfl, (Grid.step_wrap joined isSealed wrapped.2).1⟩
  · intro bands seed wrapped walled
    obtain ⟨joined, isSealed, same⟩ := Grid.advanceBanded_wrap rfl begins bands seed count
    rw [show walled = _ from same]
    exact ⟨rfl, (Grid.stepBanded_wrap joined isSealed bands seed).1,
      Grid.generators_wrap joined isSealed bands seed⟩

/-- Sand that falls and may vanish, alone or beside other sand, and stone to which nothing happens.
-/
def quarry : RuleSet :=
  let void : Element :=
    { id := ElementId.empty, name := emptyName, color := none, displayName := none,
      description := "", tags := [], properties := Properties.none, relations := [] }
  let sand : Element :=
    { void with id := ⟨1⟩, name := "Sand", properties := PerProperty.fill Single.one }
  let stone : Element := { void with id := ⟨2⟩, name := "Stone" }
  RuleSet.ofRules none ⟨#[void, sand, stone], by decide⟩ Registry.empty
    [{ probability := Single.half, left := ⟨1⟩, right := ⟨1⟩, outLeft := ElementId.empty,
       outRight := ⟨1⟩, source := ⟨0, 0⟩ }]
    [{ probability := Single.half, element := ⟨1⟩, target := ElementId.empty, source := ⟨1, 0⟩ }]

theorem quarry_seals : quarry.Seals ⟨2⟩ where
  occupied := by decide
  weightless := by decide
  alone := by
    intro transition listed
    obtain rfl := List.mem_singleton.mp listed
    decide
  apart := by
    intro reaction listed
    obtain rfl := List.mem_singleton.mp listed
    decide

/-- Sand beside a column of stone. -/
def silo : Board ⟨7, 6, by decide, by decide, by decide⟩ :=
  ((Board.empty _).fill (Size.sites _ ⟨0, 3⟩) (Cell.ofElement ⟨1⟩)).fill
    (Size.sitesOfColumn _ ⟨0, by decide⟩) (Cell.ofElement ⟨2⟩)

theorem silo_sealed : silo.Sealed quarry := by
  intro site first
  have column : site ∈ Size.sitesOfColumn _ ⟨0, by decide⟩ := by
    have here : site.x = ⟨0, by decide⟩ := Fin.ext (not_not.mp first)
    exact List.mem_map.mpr ⟨site.y, List.mem_finRange _, by rw [← here]⟩
  rw [silo, Board.cell_fill, if_pos column]
  exact quarry_seals

theorem silo_is_box : silo.Sealed quarry ∧ ∀ (count : Nat) (seed : UInt64),
    let grid : Grid := ⟨_, .wrap, 0, silo⟩
    let wrapped := (Grid.advanceBanded quarry (bandRows 6 2) seed)^[count] (grid.withEdge .wrap)
    let walled := (Grid.advanceBanded quarry (bandRows 6 2) seed)^[count] (grid.withEdge .wall)
    walled = wrapped.withEdge .wall := by
  refine ⟨silo_sealed, fun count seed => ?_⟩
  have box := joined_edges_are_walls ⟨_, .wrap, 0, silo⟩ silo_sealed count
  exact (box.2 (bandRows 6 2) seed).1

end FallingSand
