import FallingSand.Proofs.Tick.Disguise

/-!
# What lies beyond a window

A phase neither reads nor writes a cell outside its window, and what happens in it does not depend
on what has happened before.  Stated as one equation: replacing the cells beyond the window and
adding an earlier tally commutes with running the phase.
-/

namespace FallingSand

variable {size : Size}

/-! ## Splicing boards -/

namespace Board

/-- The cells of one board in some rows, and those of another one beyond them. -/
def splice (board beyond : Board size) (rows : Rows) : Board size where
  cells := Vector.ofFn fun place : Fin size.area =>
    if rows.contains (place / size.width) then board.cells[place] else beyond.cells[place]

variable {board beyond : Board size} {rows : Rows} {site other : Site size}

theorem cell_splice (board beyond : Board size) (rows : Rows) (site : Site size) :
    (board.splice beyond rows).cell site =
      if rows.contains site.y then board.cell site else beyond.cell site := by
  simp only [Board.cell, splice, Fin.getElem_fin, Vector.getElem_ofFn, Site.number_div]

theorem cell_splice_of_contains (inside : rows.contains site.y = true) :
    (board.splice beyond rows).cell site = board.cell site := by
  rw [cell_splice, if_pos inside]

theorem splice_self (board : Board size) (rows : Rows) : board.splice board rows = board := by
  apply ext_cell
  intro site
  rw [cell_splice, ite_self]

theorem put_splice (inside : rows.contains site.y = true) (cell : Cell) :
    (board.splice beyond rows).put site cell = (board.put site cell).splice beyond rows := by
  apply ext_cell
  intro other
  simp only [cell_put, cell_splice]
  by_cases here : other = site
  · simp [here, inside]
  · simp [here]

end Board

/-! ## Setting a run apart -/

/-- The cells of another board beyond some rows. -/
def Disguise.splice (beyond : Board size) (reach : Rows) : Disguise size where
  reach
  cell := id
  board original := original.splice beyond reach
  element_cell _ := rfl
  cell_board inside _ := Board.cell_splice_of_contains inside
  put_board inside _ := Board.put_splice inside

theorem Disguise.splice_suits (beyond : Board size) (reach : Rows) (phase : Phase) :
    (Disguise.splice beyond reach).Suits phase := by
  cases phase with
  | change => exact fun _ => rfl
  | move => exact fun _ => ⟨rfl, rfl⟩
  | react => exact ⟨fun _ => rfl, fun _ => rfl⟩

/-- The same run after an earlier one, on a board that differs beyond some rows. -/
def Progress.amid {σ : Type} (progress : Progress size σ) (rows : Rows) (beyond : Board size)
    (earlier : Tally) : Progress size σ where
  board := progress.board.splice beyond rows
  tally := earlier.merge progress.tally
  source := progress.source

/-- A phase within a window does the same whatever lies beyond the window, and leaves that as it
is. -/
theorem Phase.run_amid {σ : Type} [RandomSource σ] (phase : Phase) (rules : RuleSet) (edge : Edge)
    {reach rows : Rows}
    (within : ∀ y : Fin size.height, rows.contains y = true → reach.contains y = true)
    (progress : Progress size σ) (beyond : Board size) (earlier : Tally) :
    phase.run rules ⟨edge, reach⟩ rows (progress.amid reach beyond earlier) =
      (phase.run rules ⟨edge, reach⟩ rows progress).amid reach beyond earlier :=
  run_disguise (Disguise.splice_suits beyond reach phase) rules edge within progress earlier

end FallingSand
