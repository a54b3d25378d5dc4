import FallingSand.Proofs.Tick.Counters
import FallingSand.Proofs.Tick.StripPhases

/-!
# Ticks on strips

A tick on strips makes one strip of all cells in every phase, or cuts the cells into a strip for
every band of a pass.  For the cells of a grid, all of them or those of any number of bands, it does
not fail and does what the tick does.
-/

namespace FallingSand

variable {size : Size} {window : Window} {rows : Rows} {board : Board size}

/-! ## Ticks -/

namespace Phase

variable {σ : Type} [RandomSource σ]

/-- Run a phase on the strip of all cells. -/
def runWholeOn? (rules : RuleSet) (edge : Edge) (progress : Progress size σ) (phase : Phase) :
    Option (Progress size σ) := do
  let cells := (phase.clear progress.board).cells.toList
  let strip ← Strip.ofCells? cells size.width size.height 0 edge
  let after ← phase.runOn? rules size.rows
    { strip, tally := progress.tally, source := progress.source }
  return {
    board := Board.ofSlice size size.rows after.strip.cells
    tally := after.tally
    source := after.source }

/-- What a generator of its own makes of the strip of one band. -/
def workOn? (phase : Phase) (rules : RuleSet) (edge : Edge) (seed tick : UInt64) (size : Size)
    (band : Rows × Nat) (cells : List Cell) : Option (List Cell × Tally) := do
  let strip ← Strip.ofCells? cells size.width size.height (reach size.height band).first edge
  let after ← phase.runOn? rules band.1
    { strip
      tally := Tally.zero
      source := Xoshiro.ofSeed (bandSeed seed tick phase (UInt64.ofNat band.2)) }
  return (after.strip.cells, after.tally)

/-- Run a phase on the strips of the bands of a pass. -/
def passOn? (phase : Phase) (rules : RuleSet) (edge : Edge) (seed tick : UInt64)
    (bands : List (Rows × Nat)) (state : Board size × Tally) : Option (Board size × Tally) := do
  let parts ← Rows.carve? size.width 0 (bands.map (reach size.height)) state.1.cells.toList
  let left ← (bands.zip parts).mapM fun (band, part) =>
    (phase.workOn? rules edge seed tick size band part).map (band, ·)
  return left.foldl (fun state left => putBack state left.1 left.2) state

/-- Run a phase on the strips of all bands, one pass after the other. -/
def runBandedOn? (rules : RuleSet) (edge : Edge) (bands : List Rows) (seed tick : UInt64)
    (state : Board size × Tally) (phase : Phase) : Option (Board size × Tally) := do
  let even ← phase.passOn? rules edge seed tick (pass 0 bands) (phase.clear state.1, state.2)
  phase.passOn? rules edge seed tick (pass 1 bands) even

end Phase

namespace Grid

/-- One tick on the strip of all cells. -/
def stepOn? {σ : Type} [RandomSource σ] (rules : RuleSet) (grid : Grid) (source : σ) :
    Option (Tally × Grid × σ) := do
  let after ← Phase.all.foldlM (Phase.runWholeOn? rules grid.edge)
    (Progress.start grid.board source)
  return (after.tally, { grid with board := after.board, tick := grid.tick + 1 }, after.source)

/-- One tick on the strips of bands. -/
def stepBandedOn? (rules : RuleSet) (bands : List Rows) (seed : UInt64) (grid : Grid) :
    Option (Tally × Grid) := do
  let (board, tally) ← Phase.all.foldlM (Phase.runBandedOn? rules grid.edge bands seed grid.tick)
    (grid.board, Tally.zero)
  return (tally, { grid with board, tick := grid.tick + 1 })

end Grid

/-! ## The cells of rows -/

namespace Rows

theorem inside_rows (size : Size) : size.rows.Inside size :=
  ⟨Nat.zero_le _, Nat.le_refl _⟩

theorem Inside.widen (inside : rows.Inside size) : (rows.widen size.height).Inside size := by
  have forward := inside.forward
  have bottom := inside.stop_le
  constructor
  · simp only [Rows.widen]
    omega
  · exact Nat.min_le_right _ _

/-- Every address is that of a site. -/
theorem exists_address (inside : rows.Inside size) {place : Nat}
    (below : place < rows.count * size.width) :
    ∃ site : Site size, rows.contains site.y = true ∧ rows.address site = place := by
  have few : place / size.width < rows.stop - rows.first :=
    Nat.div_lt_of_lt_mul (Nat.mul_comm _ _ ▸ below)
  have parts := Nat.div_add_mod' place size.width
  generalize place / size.width = down at few parts
  have bottom := inside.stop_le
  have column : place % size.width < size.width := Nat.mod_lt _ size.width_pos
  refine ⟨⟨⟨place % size.width, column⟩, ⟨rows.first + down, by omega⟩⟩, ?_, ?_⟩
  · exact (contains_iff _ _).mpr ⟨Nat.le_add_right _ _, by dsimp only; omega⟩
  · rw [address]
    dsimp only
    rw [Nat.add_sub_cancel_left, parts]

end Rows

namespace Board

theorem slice_congr {other : Board size} (inside : rows.Inside size)
    (same : ∀ site, rows.contains site.y = true → board.cell site = other.cell site) :
    board.slice rows = other.slice rows := by
  refine List.ext_getElem? fun place => ?_
  by_cases below : place < rows.count * size.width
  · obtain ⟨site, contained, rfl⟩ := Rows.exists_address inside below
    rw [getElem?_slice contained, getElem?_slice contained, same site contained]
  · rw [List.getElem?_eq_none (length_slice inside board ▸ Nat.le_of_not_lt below),
      List.getElem?_eq_none (length_slice inside other ▸ Nat.le_of_not_lt below)]

theorem slice_ofSlice_slice (inside : rows.Inside size) (board : Board size) :
    (ofSlice size rows (board.slice rows)).slice rows = board.slice rows :=
  slice_congr inside fun _ => cell_ofSlice_slice board

/-- The cells of all rows are all cells. -/
theorem slice_rows (board : Board size) : board.slice size.rows = board.cells.toList := by
  have whole : (size.rows.stop - size.rows.first) * size.width = board.cells.toList.length := by
    rw [Vector.length_toList, Size.area, Nat.mul_comm]
    rfl
  have top : size.rows.first * size.width = 0 := Nat.zero_mul _
  rw [slice, Rows.slice, whole, top, List.drop_zero, List.take_length]

theorem ofSlice_slice_rows (board : Board size) :
    ofSlice size size.rows (board.slice size.rows) = board :=
  ext_cell fun site => cell_ofSlice_slice board
    ((Rows.contains_iff _ _).mpr ⟨Nat.zero_le _, site.y.isLt⟩)

end Board

/-! ## Ticks do not fail -/

namespace Phase

variable {phase : Phase} {rules : RuleSet} {edge : Edge} {seed tick : UInt64}

theorem runWholeOn?_eq_some {σ : Type} [RandomSource σ] (progress : Progress size σ) :
    runWholeOn? rules edge progress phase = some (runWhole rules edge progress phase) := by
  have all := Rows.inside_rows size
  have strip : Strip.ofCells? (phase.clear progress.board).cells.toList size.width size.height 0
      edge = some ((phase.clear progress.board).strip ⟨edge, size.rows⟩) := by
    rw [← Board.slice_rows]
    exact Strip.ofCells?_slice all _ edge
  have run : phase.runOn? rules size.rows ((progress.enter phase).onStrip ⟨edge, size.rows⟩) =
      some ((runWhole rules edge progress phase).onStrip ⟨edge, size.rows⟩) :=
    phase.runOn?_onStrip rules all all (fun _ own => own) _
  have board (after : Progress size σ) :
      Board.ofSlice size size.rows (after.board.strip ⟨edge, size.rows⟩).cells = after.board :=
    Board.ofSlice_slice_rows _
  rw [runWholeOn?, strip, Option.bind_eq_bind, Option.bind_some]
  change (phase.runOn? rules size.rows
    ((progress.enter phase).onStrip ⟨edge, size.rows⟩)).bind _ = _
  rw [run, Option.bind_some, Progress.strip_onStrip, board]
  rfl

theorem workOn?_slice {band : Rows × Nat} (inside : band.1.Inside size) (board : Board size) :
    phase.workOn? rules edge seed tick size band (board.slice (reach size.height band)) =
      some (phase.workSlice rules edge seed tick size band
        (board.slice (reach size.height band))) := by
  have wide : (reach size.height band).Inside size := inside.widen
  have own : ∀ y : Fin size.height, band.1.contains y = true →
    (reach size.height band).contains y = true := reach_contains
  let part : Board size :=
    Board.ofSlice size (reach size.height band) (board.slice (reach size.height band))
  let start : Progress size Xoshiro :=
    { board := part
      tally := Tally.zero
      source := Xoshiro.ofSeed (bandSeed seed tick phase (UInt64.ofNat band.2)) }
  have strip : Strip.ofCells? (board.slice (reach size.height band)) size.width size.height
      (reach size.height band).first edge =
      some (part.strip ⟨edge, reach size.height band⟩) := by
    rw [← Board.slice_ofSlice_slice wide]
    exact Strip.ofCells?_slice wide part edge
  rw [workOn?, strip, Option.bind_eq_bind, Option.bind_some]
  change (phase.runOn? rules band.1 (start.onStrip ⟨edge, reach size.height band⟩)).bind _ = _
  rw [phase.runOn?_onStrip rules wide inside own start]
  rfl

theorem inside_of_mem_pass {parity wished : Nat} {band : Rows × Nat}
    (listed : band ∈ pass parity (bandRows size.height wished)) : band.1.Inside size := by
  have member := List.fst_mem_of_mem_zipIdx (List.mem_of_mem_filter listed)
  exact ⟨(bandRows_bounds member).1, (bandRows_bounds member).2⟩

theorem passOn?_eq_some (parity wished : Nat) (state : Board size × Tally) :
    phase.passOn? rules edge seed tick (pass parity (bandRows size.height wished)) state =
      some ((pass parity (bandRows size.height wished)).foldl
        (phase.runBand rules edge seed tick) state) := by
  have apart := pass_pairwise_apart parity size.height wished
  have inside : ∀ band ∈ pass parity (bandRows size.height wished), band.1.Inside size :=
    fun band listed => inside_of_mem_pass listed
  rw [passOn?, carve?_windows]
  generalize pass parity (bandRows size.height wished) = bands at apart inside
  have parts : bands.zip ((bands.map (reach size.height)).map state.1.slice) =
      bands.map fun band => (band, state.1.slice (reach size.height band)) := by
    have zipped : (bands.map id).zip (bands.map (state.1.slice ∘ reach size.height)) = _ :=
      List.zip_map'
    rw [List.map_id] at zipped
    rw [List.map_map, zipped]
    rfl
  have left : (bands.map fun band => (band, state.1.slice (reach size.height band))).mapM
      (fun part => (phase.workOn? rules edge seed tick size part.1 part.2).map (part.1, ·)) =
      some (bands.map fun band => (band, phase.workSlice rules edge seed tick size band
        (state.1.slice (reach size.height band)))) := by
    rw [List.mapM_map]
    refine mapM_eq_some_map fun band listed => ?_
    rw [Function.comp_apply, workOn?_slice (inside band listed), Option.map_some]
  simp only [Option.bind_eq_bind, Option.bind_some, parts]
  rw [left, Option.bind_some, List.foldl_map]
  exact congrArg some (foldl_putBack apart fun _ _ _ _ => rfl)

theorem runBandedOn?_eq_some (wished : Nat) (state : Board size × Tally) :
    phase.runBandedOn? rules edge (bandRows size.height wished) seed tick state =
      some (phase.runBanded rules edge (bandRows size.height wished) seed tick state) := by
  rw [runBandedOn?, passOn?_eq_some, Option.bind_eq_bind, Option.bind_some, passOn?_eq_some,
    runBanded, List.foldl_append]

end Phase

namespace Grid

theorem stepOn?_eq_some {σ : Type} [RandomSource σ] (rules : RuleSet) (grid : Grid) (source : σ) :
    grid.stepOn? rules source = some (grid.step rules source) := by
  have phases : (Phase.runWholeOn? rules grid.edge :
      Progress grid.size σ → Phase → Option (Progress grid.size σ)) =
      fun progress phase => pure (Phase.runWhole rules grid.edge progress phase) :=
    funext₂ fun progress _ => Phase.runWholeOn?_eq_some progress
  rw [stepOn?, phases, List.foldlM_pure]
  rfl

theorem stepBandedOn?_eq_some (rules : RuleSet) (wished : Nat) (seed : UInt64) (grid : Grid) :
    grid.stepBandedOn? rules (bandRows grid.size.height wished) seed =
      some (grid.stepBanded rules (bandRows grid.size.height wished) seed) := by
  have phases : Phase.runBandedOn? rules grid.edge (bandRows grid.size.height wished) seed
      grid.tick = fun state phase => pure (Phase.runBanded rules grid.edge
        (bandRows grid.size.height wished) seed grid.tick state phase) :=
    funext₂ fun state _ => Phase.runBandedOn?_eq_some wished state
  rw [stepBandedOn?, phases, List.foldlM_pure]
  rfl

end Grid

/-- No tick fails, over the whole grid or over any number of bands: every position and every address
that it computes is made of words, every address that it uses is that of a cell, and every shuffle
exchanges items that are there.  Different positions of a strip never share an address, and the
counters of a tick stay within the number of cells. -/
theorem ticks_never_fail (rules : RuleSet) (grid : Grid) :
    (∀ (σ : Type) [RandomSource σ] (source : σ),
      grid.stepOn? rules source = some (grid.step rules source) ∧
        (grid.step rules source).1.Fits grid.size.area ∧
        grid.size.rows.Inside grid.size) ∧
    (∀ (wished : Nat) (seed : UInt64),
      let bands := bandRows grid.size.height wished
      grid.stepBandedOn? rules bands seed = some (grid.stepBanded rules bands seed) ∧
        (grid.stepBanded rules bands seed).1.Fits grid.size.area ∧
        ∀ band ∈ bands, (band.widen grid.size.height).Inside grid.size) ∧
    (∀ (board : Board grid.size) (window : Window), window.rows.Inside grid.size →
      (board.strip window).Distinct) ∧
    ∀ tally : Tally, tally.Fits grid.size.area →
      tally.moved < 2 ^ 32 ∧ tally.transitions < 2 ^ 32 ∧ tally.reactions < 2 ^ 32 := by
  refine ⟨fun σ _ source => ?_, fun wished seed => ⟨?_, ?_, fun band listed => ?_⟩,
    fun board window inside => Strip.distinct_strip inside board, fun tally fits => fits.small⟩
  · exact ⟨grid.stepOn?_eq_some rules source, grid.fits_step rules source,
      Rows.inside_rows grid.size⟩
  · exact grid.stepBandedOn?_eq_some rules wished seed
  · exact grid.fits_stepBanded rules wished seed
  · have bounds := bandRows_bounds listed
    exact Rows.Inside.widen ⟨bounds.1, bounds.2⟩

/-- A heap of sand: the strip of its last three rows, and a tick over the whole of it. -/
theorem heap_never_fails :
    let grid : Grid := ⟨_, .wrap, 3, heap⟩
    Rows.Inside grid.size ⟨1, 4⟩ ∧ (grid.board.strip ⟨.wrap, ⟨1, 4⟩⟩).Distinct ∧
      (grid.step pouring (Xoshiro.ofSeed 7)).1.Fits 8 ∧
      (grid.step pouring (Xoshiro.ofSeed 7)).1.moved < 2 ^ 32 := by
  intro grid
  have inside : Rows.Inside grid.size ⟨1, 4⟩ := ⟨by decide, Nat.le_refl 4⟩
  obtain ⟨whole, -, distinct, small⟩ := ticks_never_fail pouring grid
  have fits := (whole Xoshiro (Xoshiro.ofSeed 7)).2.1
  exact ⟨inside, distinct heap ⟨.wrap, ⟨1, 4⟩⟩ inside, fits, (small _ fits).1⟩

end FallingSand
