import FallingSand.Proofs.Grid.Alike
import FallingSand.Proofs.Tick.MovedOnce
import FallingSand.Proofs.Tick.Passes
import FallingSand.Proofs.Tick.Weights

/-!
# Marks never leak

A phase sees nothing of a cell but the element and the mark of its own, and that mark is wiped off
all cells before the phase begins.  So the marks that a tick finds on the cells make no difference:
what happens depends on the elements, the number of the tick and the randomness alone.
-/

namespace FallingSand

variable {size : Size}

/-! ## What a phase sees -/

namespace Phase

variable {σ : Type} [RandomSource σ] {phase : Phase} {rules : RuleSet} {edge : Edge}

/-- What a phase sees of a cell: the element and the mark of its own. -/
def seen : Phase → Cell → Cell
  | change, cell => cell.bare
  | move, cell => { cell.bare with moved := cell.moved }
  | react, cell => { cell.bare with reacted := cell.reacted }

/-- The cells as a phase sees them. -/
def sight (phase : Phase) (reach : Rows) : Disguise size where
  reach
  cell := phase.seen
  board original := original.map phase.seen
  element_cell _ := by cases phase <;> rfl
  cell_board _ original := original.cell_map phase.seen _
  put_board _ original content := original.put_map content

theorem sight_suits (phase : Phase) (reach : Rows) :
    (phase.sight reach : Disguise size).Suits phase := by
  cases phase with
  | change => exact fun _ => rfl
  | move => exact fun _ => ⟨rfl, rfl⟩
  | react => exact ⟨fun _ => rfl, fun _ => rfl⟩

/-- Where a phase begins, it sees no marks. -/
theorem map_seen_clear (phase : Phase) (board : Board size) :
    (phase.clear board).map phase.seen = board.bare := by
  apply Board.ext_cell
  intro site
  rw [Board.cell_map, cell_clear, Board.bare, Board.cell_map]
  cases phase <;> rfl

/-- A phase sees all elements. -/
theorem bare_map_seen (phase : Phase) (board : Board size) :
    (board.map phase.seen).bare = board.bare := by
  apply Board.ext_cell
  intro site
  simp only [Board.bare, Board.cell_map]
  cases phase <;> rfl

/-- A phase does the same whatever it does not see. -/
theorem run_map_seen (phase : Phase) (rules : RuleSet) (edge : Edge) {reach rows : Rows}
    (within : ∀ y : Fin size.height, rows.contains y = true → reach.contains y = true)
    (progress : Progress size σ) :
    phase.run rules ⟨edge, reach⟩ rows { progress with board := progress.board.map phase.seen } =
      let after := phase.run rules ⟨edge, reach⟩ rows progress
      { after with board := after.board.map phase.seen } := by
  have same := run_disguise (phase.sight_suits reach) rules edge within progress Tally.zero
  simp only [Progress.disguise, Tally.zero_merge] at same
  exact same

end Phase

/-! ## Phases -/

/-- The state of a tick without the marks of the cells. -/
def Progress.bare {σ : Type} (progress : Progress size σ) : Progress size σ :=
  { progress with board := progress.board.bare }

namespace Phase

variable {σ : Type} [RandomSource σ] {rules : RuleSet} {edge : Edge}

/-- Up to the marks that it leaves, a phase over the whole board depends on no marks. -/
theorem bare_runWhole (phase : Phase) (progress : Progress size σ) :
    (phase.runWhole rules edge progress).bare =
      (phase.run rules (Window.whole size edge) size.rows progress.bare).bare := by
  have same := phase.run_map_seen rules edge (fun _ inside => inside : ∀ y : Fin size.height,
    size.rows.contains y = true → size.rows.contains y = true) (progress.enter phase)
  have begins : (progress.enter phase).board.map phase.seen = progress.board.bare :=
    phase.map_seen_clear progress.board
  rw [begins] at same
  have ends := congrArg Progress.bare same
  dsimp only [Progress.bare] at ends
  rw [bare_map_seen] at ends
  exact ends.symm

/-- A band does the same whatever its phase does not see. -/
theorem runBand_map_seen (phase : Phase) (rules : RuleSet) (edge : Edge) (seed tick : UInt64)
    (state : Board size × Tally) (band : Rows × Nat) :
    phase.runBand rules edge seed tick (state.1.map phase.seen, state.2) band =
      let after := phase.runBand rules edge seed tick state band
      (after.1.map phase.seen, after.2) := by
  have own : ∀ y : Fin size.height, band.1.contains y = true →
    (reach size.height band).contains y = true := reach_contains
  have same := phase.run_map_seen rules edge own
    { board := state.1
      tally := state.2
      source := Xoshiro.ofSeed (bandSeed seed tick phase (UInt64.ofNat band.2)) }
  unfold runBand
  dsimp only at same ⊢
  rw [← reach, same]

/-- Up to the marks that it leaves, a phase over bands depends on no marks. -/
theorem bare_runBanded (phase : Phase) (rules : RuleSet) (edge : Edge) (bands : List Rows)
    (seed tick : UInt64) (state : Board size × Tally) :
    Prod.map Board.bare id (phase.runBanded rules edge bands seed tick state) =
      Prod.map Board.bare id ((pass 0 bands ++ pass 1 bands).foldl
        (phase.runBand rules edge seed tick) (state.1.bare, state.2)) := by
  let sight (state : Board size × Tally) : Board size × Tally :=
    (state.1.map phase.seen, state.2)
  calc
    Prod.map Board.bare id (phase.runBanded rules edge bands seed tick state) =
        Prod.map Board.bare id (sight (phase.runBanded rules edge bands seed tick state)) := by
      rw [Prod.map, Prod.map, bare_map_seen]
    _ = Prod.map Board.bare id ((pass 0 bands ++ pass 1 bands).foldl
          (phase.runBand rules edge seed tick) (sight (phase.clear state.1, state.2))) :=
      congrArg _ (foldl_commutes sight fun state band _ =>
        phase.runBand_map_seen rules edge seed tick state band).symm
    _ = _ := by rw [show sight (phase.clear state.1, state.2) = (state.1.bare, state.2) from
        congrArg (·, state.2) (phase.map_seen_clear state.1)]

end Phase

/-! ## Ticks -/

namespace Grid.Alike

variable {one other : Grid}

/-- A tick over the whole grid does the same on grids that are alike. -/
theorem step {σ : Type} [RandomSource σ] (alike : one.Alike other) (rules : RuleSet) (source : σ) :
    (one.step rules source).1 = (other.step rules source).1 ∧
      (one.step rules source).2.1.Alike (other.step rules source).2.1 ∧
      (one.step rules source).2.2 = (other.step rules source).2.2 := by
  obtain ⟨edge, tick, elements⟩ := alike
  rename_i size board other
  have same : (Phase.all.foldl (Phase.runWhole rules edge) (Progress.start board source)).bare =
      (Phase.all.foldl (Phase.runWhole rules edge) (Progress.start other source)).bare := by
    refine List.foldl_rel (r := InvImage Eq Progress.bare) ?_ ?_
    · rw [InvImage, Progress.bare, Progress.bare, Progress.start, Board.bare_eq_iff.mpr elements]
      rfl
    · intro phase _ before before' same
      rw [InvImage] at same ⊢
      rw [Phase.bare_runWhole, same, Phase.bare_runWhole]
  rw [Progress.bare, Progress.bare, Progress.mk.injEq] at same
  exact ⟨same.2.1, .mk edge (tick + 1) (Board.bare_eq_iff.mp same.1), same.2.2⟩

theorem stepBanded (alike : one.Alike other) (rules : RuleSet) (bands : List Rows)
    (seed : UInt64) :
    (one.stepBanded rules bands seed).1 = (other.stepBanded rules bands seed).1 ∧
      (one.stepBanded rules bands seed).2.Alike (other.stepBanded rules bands seed).2 := by
  obtain ⟨edge, tick, elements⟩ := alike
  rename_i size board other
  have same : Prod.map Board.bare id
      (Phase.all.foldl (Phase.runBanded rules edge bands seed tick) (board, Tally.zero)) =
      Prod.map Board.bare id
        (Phase.all.foldl (Phase.runBanded rules edge bands seed tick) (other, Tally.zero)) := by
    refine List.foldl_rel (r := InvImage Eq (Prod.map Board.bare id)) ?_ ?_
    · exact congrArg (·, Tally.zero) (Board.bare_eq_iff.mpr elements)
    · intro phase _ state state' same
      rw [InvImage] at same ⊢
      obtain ⟨boards, tallies⟩ := Prod.mk.inj same
      rw [Phase.bare_runBanded, Phase.bare_runBanded, boards, show state.2 = state'.2 from tallies]
  obtain ⟨boards, tallies⟩ := Prod.mk.inj same
  exact ⟨tallies, .mk edge (tick + 1) (Board.bare_eq_iff.mp boards)⟩

theorem advance {σ : Type} [RandomSource σ] (alike : one.Alike other) (rules : RuleSet) (source : σ)
    (count : Nat) :
    ((Grid.advance rules)^[count] (one, source)).1.Alike
        ((Grid.advance rules)^[count] (other, source)).1 ∧
      ((Grid.advance rules)^[count] (one, source)).2 =
        ((Grid.advance rules)^[count] (other, source)).2 := by
  induction count with
  | zero => exact ⟨alike, rfl⟩
  | succ count induction =>
      obtain ⟨grids, sources⟩ := induction
      rw [Function.iterate_succ_apply', Function.iterate_succ_apply', Grid.advance, Grid.advance,
        sources]
      exact (grids.step rules _).2

theorem advanceBanded (alike : one.Alike other) (rules : RuleSet) (bands : List Rows)
    (seed : UInt64) (count : Nat) :
    ((Grid.advanceBanded rules bands seed)^[count] one).Alike
      ((Grid.advanceBanded rules bands seed)^[count] other) := by
  induction count with
  | zero => exact alike
  | succ count induction =>
      rw [Function.iterate_succ_apply', Function.iterate_succ_apply']
      exact (induction.stepBanded rules bands seed).2

end Grid.Alike

/-- On two grids with the same size, edge, tick and elements, the same happens in a tick whatever
the marks of their cells: with the same source of randomness over the whole grid, and with the same
bands and seed over bands.  So it does in any number of ticks. -/
theorem marks_never_leak (rules : RuleSet) {one other : Grid} (alike : one.Alike other)
    (count : Nat) :
    (∀ (σ : Type) [RandomSource σ] (source : σ),
      let state := (Grid.advance rules)^[count] (one, source)
      let state' := (Grid.advance rules)^[count] (other, source)
      state.1.Alike state'.1 ∧ state.2 = state'.2 ∧
        let after := state.1.step rules state.2
        let after' := state'.1.step rules state'.2
        after.1 = after'.1 ∧ after.2.1.Alike after'.2.1 ∧ after.2.2 = after'.2.2) ∧
    ∀ (bands : List Rows) (seed : UInt64),
      let grid := (Grid.advanceBanded rules bands seed)^[count] one
      let grid' := (Grid.advanceBanded rules bands seed)^[count] other
      grid.Alike grid' ∧
        let after := grid.stepBanded rules bands seed
        let after' := grid'.stepBanded rules bands seed
        after.1 = after'.1 ∧ after.2.Alike after'.2 := by
  refine ⟨fun σ _ source => ?_, fun bands seed => ?_⟩
  · obtain ⟨grids, sources⟩ := alike.advance rules source count
    intro state state'
    refine ⟨grids, sources, ?_⟩
    rw [← sources]
    exact grids.step rules state.2
  · have grids := alike.advanceBanded rules bands seed count
    exact ⟨grids, grids.stepBanded rules bands seed⟩

/-- On a heap with all marks on every cell, the same happens as without any marks. -/
theorem marked_heap :
    let grid : Grid := ⟨_, .wrap, 3, heap⟩
    let marked : Grid := ⟨_, .wrap, 3, heap.map fun cell => cell.mark 255⟩
    grid.Alike marked ∧
      ∀ (bands : List Rows) (seed : UInt64),
        (grid.stepBanded pouring bands seed).1 = (marked.stepBanded pouring bands seed).1 ∧
          (grid.stepBanded pouring bands seed).2.Alike
            (marked.stepBanded pouring bands seed).2 := by
  intro grid marked
  have alike : grid.Alike marked := .mk .wrap 3 fun site => by
    rw [Board.cell_map]
    rfl
  exact ⟨alike, fun bands seed => ((marks_never_leak pouring alike 0).2 bands seed).2⟩

end FallingSand
