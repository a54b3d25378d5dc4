import FallingSand.Proofs.Tick.Passes

/-!
# Workers with cells of their own

The bands of a pass can be handed out to workers that share nothing.  The cells of the board are cut
into the windows of the bands, every worker runs its band on the cells of its window alone, counted
from the first of them, and what the workers leave is put back.  The result is that of running the
bands one after the other on the whole board.
-/

namespace FallingSand

variable {size : Size}

/-! ## The cells of a window -/

namespace Board

/-- The board with the given cells in the rows of a window, and unoccupied cells beyond it. -/
def ofSlice (size : Size) (window : Rows) (cells : List Cell) : Board size where
  cells := Vector.ofFn fun place : Fin size.area =>
    if window.contains (place / size.width) then
      cells.getD (place - window.first * size.width) Cell.empty
    else Cell.empty

/-- The cells of the rows of a window. -/
def slice (board : Board size) (window : Rows) : List Cell :=
  window.slice size.width board.cells.toList

/-- The cells of a window fill it with what they have been taken from. -/
theorem cell_ofSlice_slice (board : Board size) {window : Rows} {site : Site size}
    (inside : window.contains site.y = true) :
    (ofSlice size window (board.slice window)).cell site = board.cell site := by
  have column := site.x.isLt
  have bound := site.number_lt
  rw [Rows.contains_iff] at inside
  have begin : window.first * size.width ≤ site.y.val * size.width :=
    Nat.mul_le_mul_right _ inside.1
  have row : (site.y.val + 1) * size.width ≤ window.stop * size.width :=
    Nat.mul_le_mul_right _ inside.2
  have place : site.number.val - window.first * size.width <
      (window.stop - window.first) * size.width := by
    rw [Nat.add_mul] at row
    rw [Nat.sub_mul, Site.number_val]
    omega
  have back : window.first * size.width + (site.number.val - window.first * size.width) =
      site.number.val := by
    rw [Site.number_val]
    omega
  simp only [Board.cell, ofSlice, slice, Fin.getElem_fin, Vector.getElem_ofFn, Site.number_div,
    Rows.contains_iff, inside, and_self, if_true, Rows.slice, List.getD_eq_getElem?_getD,
    List.getElem?_take, place, List.getElem?_drop, back]
  simp [bound]

theorem splice_splice {board beyond other : Board size} {rows : Rows} :
    (board.splice beyond rows).splice other rows = board.splice other rows := by
  apply ext_cell
  intro site
  simp only [cell_splice]
  split <;> rfl

/-- What a window is filled with replaces the cells of the window. -/
theorem ofSlice_slice_splice (board beyond : Board size) (window : Rows) :
    (ofSlice size window (board.slice window)).splice beyond window =
      board.splice beyond window := by
  apply ext_cell
  intro site
  rw [cell_splice, cell_splice]
  split
  · exact cell_ofSlice_slice board ‹_›
  · rfl

end Board

/-! ## Passes by workers -/

namespace Phase

variable {phase : Phase} {rules : RuleSet} {edge : Edge} {seed tick : UInt64}
  {bands : List (Rows × Nat)}

/-- What the worker of a band makes of the cells of its window. -/
def workSlice (phase : Phase) (rules : RuleSet) (edge : Edge) (seed tick : UInt64) (size : Size)
    (band : Rows × Nat) (cells : List Cell) : List Cell × Tally :=
  let window := reach size.height band
  let after := phase.work rules edge seed tick (Board.ofSlice size window cells) band
  (after.1.slice window, after.2)

/-- Put the cells that a worker leaves back into their window, and add its tally. -/
def putBack (state : Board size × Tally) (band : Rows × Nat) (left : List Cell × Tally) :
    Board size × Tally :=
  let window := reach size.height band
  ((Board.ofSlice size window left.1).splice state.1 window, state.2.merge left.2)

/-- Hand the bands of a pass out to workers, if the cells can be cut into their windows. -/
def passApart? (phase : Phase) (rules : RuleSet) (edge : Edge) (seed tick : UInt64)
    (bands : List (Rows × Nat)) (state : Board size × Tally) : Option (Board size × Tally) :=
  let windows := bands.map (reach size.height)
  (Rows.carve? size.width 0 windows state.1.cells.toList).map fun parts =>
    let left := bands.zipWith
      (fun band part => (band, phase.workSlice rules edge seed tick size band part)) parts
    left.foldl (fun state left => putBack state left.1 left.2) state

/-- Run a phase over all bands of a board, one pass after the other. -/
def runApart? (rules : RuleSet) (edge : Edge) (bands : List Rows) (seed tick : UInt64)
    (state : Board size × Tally) (phase : Phase) : Option (Board size × Tally) := do
  let even ← phase.passApart? rules edge seed tick (pass 0 bands) (phase.clear state.1, state.2)
  phase.passApart? rules edge seed tick (pass 1 bands) even

/-- As long as its window is as the pass has found it, a band leaves there what its worker does. -/
theorem putBack_workSlice {before state : Board size × Tally} {band : Rows × Nat}
    (same : ∀ site, (reach size.height band).contains site.y = true →
      state.1.cell site = before.1.cell site) :
    putBack state band (phase.workSlice rules edge seed tick size band
        (before.1.slice (reach size.height band))) =
      phase.runBand rules edge seed tick state band := by
  have seen : ∀ site, (reach size.height band).contains site.y = true →
      (Board.ofSlice size (reach size.height band)
        (before.1.slice (reach size.height band))).cell site = state.1.cell site := by
    intro site inside
    rw [Board.cell_ofSlice_slice _ inside, same site inside]
  rw [putBack, workSlice, work_congr seen, runBand_eq_work]
  dsimp only
  rw [Board.ofSlice_slice_splice, Board.splice_splice]

/-- Bands without a common row find their windows as the pass has found them. -/
theorem foldl_putBack {before state : Board size × Tally}
    (apart : bands.Pairwise (Apart size.height))
    (same : ∀ band ∈ bands, ∀ site, (reach size.height band).contains site.y = true →
      state.1.cell site = before.1.cell site) :
    bands.foldl (fun state band => putBack state band
        (phase.workSlice rules edge seed tick size band
          (before.1.slice (reach size.height band)))) state =
      bands.foldl (phase.runBand rules edge seed tick) state := by
  induction bands generalizing state with
  | nil => rfl
  | cons band bands induction =>
      obtain ⟨away, apart⟩ := List.pairwise_cons.mp apart
      obtain ⟨here, later⟩ := List.forall_mem_cons.mp same
      rw [List.foldl_cons, List.foldl_cons, putBack_workSlice here]
      refine induction apart fun other listed site inside => ?_
      have outside := (away other listed).symm site.y inside
      rw [cell_runBand_of_not_contains state.2 outside]
      exact later other listed site inside

theorem carve?_windows (parity wished : Nat) (board : Board size) :
    Rows.carve? size.width 0 ((pass parity (bandRows size.height wished)).map (reach size.height))
        board.cells.toList =
      some (((pass parity (bandRows size.height wished)).map (reach size.height)).map
        board.slice) := by
  have cells : board.cells.toList.length = size.height * size.width := by
    rw [Vector.length_toList, Size.area, Nat.mul_comm]
  have carved := Rows.carve?_eq_some cells (fun _ _ => Nat.zero_le _)
    (List.pairwise_map.mpr (pass_apart parity size.height wished)) fun window listed =>
      ⟨Nat.le_of_lt (window_bounds size.height_pos listed).1,
        (window_bounds size.height_pos listed).2⟩
  rw [Nat.zero_mul, List.drop_zero] at carved
  exact carved

theorem passApart?_eq_some (parity wished : Nat) (state : Board size × Tally) :
    phase.passApart? rules edge seed tick (pass parity (bandRows size.height wished)) state =
      some ((pass parity (bandRows size.height wished)).foldl
        (phase.runBand rules edge seed tick) state) := by
  have apart := pass_pairwise_apart parity size.height wished
  rw [passApart?, carve?_windows]
  generalize pass parity (bandRows size.height wished) = bands at apart
  simp only [Option.map_some, List.map_map, List.zipWith_map_right, List.zipWith_self,
    List.foldl_map, Function.comp_apply]
  exact congrArg some (foldl_putBack apart fun _ _ _ _ => rfl)

theorem runApart?_eq_some (wished : Nat) (state : Board size × Tally) :
    phase.runApart? rules edge (bandRows size.height wished) seed tick state =
      some (phase.runBanded rules edge (bandRows size.height wished) seed tick state) := by
  rw [runApart?, passApart?_eq_some, Option.bind_eq_bind, Option.bind_some, passApart?_eq_some,
    runBanded, List.foldl_append]

end Phase

/-- One tick over bands by workers. -/
def Grid.stepApart? (rules : RuleSet) (bands : List Rows) (seed : UInt64) (grid : Grid) :
    Option (Tally × Grid) := do
  let (board, tally) ← Phase.all.foldlM
    (fun state phase => Phase.runApart? rules grid.edge bands seed grid.tick state phase)
    (grid.board, Tally.zero)
  return (tally, { grid with board, tick := grid.tick + 1 })

/-- Workers that share nothing make a tick over the bands of a grid. -/
theorem Grid.stepApart?_eq_some (rules : RuleSet) (wished : Nat) (seed : UInt64) (grid : Grid) :
    grid.stepApart? rules (bandRows grid.size.height wished) seed =
      some (grid.stepBanded rules (bandRows grid.size.height wished) seed) := by
  have phases : Phase.all.foldlM
      (fun state phase => Phase.runApart? rules grid.edge (bandRows grid.size.height wished) seed
        grid.tick state phase) (grid.board, Tally.zero) =
      some (Phase.all.foldl
        (Phase.runBanded rules grid.edge (bandRows grid.size.height wished) seed grid.tick)
        (grid.board, Tally.zero)) := by
    simp only [Phase.runApart?_eq_some]
    exact List.foldlM_pure
  rw [stepApart?, phases]
  rfl

end FallingSand
