import FallingSand.Proofs.Tick.Disguise
import FallingSand.Proofs.Tick.MovedOnce
import FallingSand.Proofs.Tick.Settling
import FallingSand.Proofs.Turn.Advance
import FallingSand.Random.Script

/-!
# What comes of a turn to move

A turn to move has one of two outcomes.  Either the particle stays, and the board and the tally are
as before, or it ends up elsewhere in the window: there with its mark, and with all the other cells
permuted.  The exchanges on its way compose to that permutation, which does not touch the rows
outside of the window.
-/

namespace FallingSand

variable {size : Size}

/-! ## Carried by exchanges -/

/-- The cells of a board come from those of another one by a permutation, which carries the cell at
one site to another site and leaves the rows out of reach alone. -/
structure Board.Carries (before after : Board size) (reach : Rows) (site final : Site size) :
    Prop where
  /-- The cell ends up within reach. -/
  inside : reach.contains final.y = true
  /-- Every cell is as it was where it comes from. -/
  permuted : ∃ origin : Equiv.Perm (Site size), origin final = site ∧
    (∀ other, after.cell other = before.cell (origin other)) ∧
      ∀ other, reach.contains other.y = false → origin other = other

namespace Board.Carries

variable {before after : Board size} {reach : Rows} {site final next : Site size}

theorem refl (board : Board size) (inside : reach.contains site.y = true) :
    board.Carries board reach site site :=
  ⟨inside, Equiv.refl _, rfl, fun _ => rfl, fun _ _ => rfl⟩

/-- One more exchange carries the cell one site further. -/
theorem exchange (carries : before.Carries after reach site final)
    (reached : reach.contains next.y = true) :
    before.Carries (after.exchange final next) reach site next := by
  obtain ⟨inside, origin, carried, cells, beyond⟩ := carries
  refine ⟨reached, (Equiv.swap final next).trans origin, ?_, fun other => ?_,
    fun other outside => ?_⟩
  · rw [Equiv.trans_apply, Equiv.swap_apply_right, carried]
  · rw [Equiv.trans_apply, ← cells, cell_exchange, Equiv.swap_apply_def]
    split
    · rename_i there
      subst there
      split
      · rename_i here
        rw [here]
      · rfl
    · split <;> rfl
  · have apart {within : Site size} (inside : reach.contains within.y = true) :
        other ≠ within := by
      rintro rfl
      rw [inside] at outside
      cases outside
    rw [Equiv.trans_apply, Equiv.swap_apply_of_ne_of_ne (apart inside) (apart reached),
      beyond other outside]

end Board.Carries

namespace Progress

variable {σ : Type} [RandomSource σ] {table : ElementTable} {window : Window}
  {mover : Properties} {before : Board size} {origin site : Site size} {progress : Progress size σ}

/-- Vertical steps carry the particle along. -/
theorem carries_descend (table : ElementTable) (mover : Properties) (steps : Nat)
    (carries : before.Carries progress.board window.rows origin site) :
    let way := descend table window mover steps site progress
    before.Carries way.2.board window.rows origin way.1 := by
  induction steps generalizing site progress with
  | zero => exact carries
  | succ steps induction =>
      dsimp only
      rw [descend_add_one]
      split
      · rename_i next found
        exact induction (carries.exchange (contains_of_entrance? found))
      · dsimp only
        split
        · rename_i next slides
          exact induction (carries.exchange (contains_of_drawSlide? slides))
        · exact carries

/-- Drifting carries the particle along. -/
theorem carries_drift (table : ElementTable) (mover : Properties)
    (carries : before.Carries progress.board window.rows origin site) :
    let way := drift table window mover site progress
    before.Carries way.2.board window.rows origin way.1 := by
  rw [drift]
  dsimp only
  split
  · rename_i next found
    obtain ⟨side, -, entered⟩ := Option.bind_eq_some_iff.mp found
    exact carries.exchange (contains_of_entrance? entered)
  · exact carries

/-- A whole way carries the particle from where it starts to where it ends. -/
theorem carries_travel (table : ElementTable) (mover : Properties) (steps : Nat)
    (progress : Progress size σ) (inside : window.rows.contains site.y = true) :
    let way := travel table window mover steps site progress
    progress.board.Carries way.2.board window.rows site way.1 :=
  carries_drift table mover (carries_descend table mover steps (.refl progress.board inside))

/-- A whole way leads on in the direction of travel, at most as many rows as there are vertical
steps. -/
theorem travel_ahead (table : ElementTable) (window : Window) (mover : Properties) (steps : Nat)
    (site : Site size) (progress : Progress size σ) :
    let way := travel table window mover steps site progress
    let ahead := ((way.1.y.val : Int) - site.y.val) * mover.direction
    0 ≤ ahead ∧ ahead ≤ steps := by
  obtain ⟨taken, few, row, -⟩ := descend_advances table window mover steps site progress
  dsimp only
  rw [travel, row_drift, row, add_sub_cancel_left]
  rcases mover.direction_cases with down | rests | up
  · rw [down]
    omega
  · rw [rests]
    omega
  · rw [up]
    omega

/-! ## Outcomes -/

/-- What a turn does if it leads a particle from one site to another. -/
structure Arrives (table : ElementTable) (window : Window) (before after : Progress size σ)
    (site final : Site size) : Prop where
  /-- The particle is still in the window. -/
  inside : window.rows.contains final.y = true
  /-- It is elsewhere than before. -/
  elsewhere : final ≠ site
  /-- It is as it was, but for the mark. -/
  marked : after.board.cell final = (before.board.cell site).markMoved
  /-- All other cells, with their marks, are those that were around it, rearranged within the
  window. -/
  others : ∃ origin : Equiv.Perm (Site size), origin final = site ∧
    (∀ other, other ≠ final → after.board.cell other = before.board.cell (origin other)) ∧
      ∀ other, window.rows.contains other.y = false → origin other = other
  /-- One more cell has moved. -/
  counted : after.tally = before.tally.addMoved
  /-- It has gone on in its direction of travel, at most by the number of vertical steps that were
  drawn. -/
  ahead : let mover := table.properties (before.board.cell site).element
    let ahead := ((final.y.val : Int) - site.y.val) * mover.direction
    0 ≤ ahead ∧ ahead ≤ (mover.drawSteps window.rows.count before.source).1

/-- The two outcomes of a turn, told by where it says that the particle went. -/
def Outcome (table : ElementTable) (window : Window) (before after : Progress size σ)
    (site : Site size) : Option (Site size) → Prop
  | none => after.board = before.board ∧ after.tally = before.tally
  | some final => before.Arrives table window after site final

/-- A turn that is taken has one of the two outcomes. -/
theorem outcome_of_able (able : progress.board.Able table site)
    (inside : window.rows.contains site.y = true) :
    let turn := progress.move table window site
    progress.Outcome table window turn.2 site turn.1 := by
  dsimp only
  rw [move_eq_of_able able]
  generalize stands : table.properties (progress.board.cell site).element = mover
  generalize steps : mover.drawSteps window.rows.count progress.source = drawn
  let start : Progress size σ := { progress with source := drawn.2 }
  have carries := carries_travel table mover drawn.1 start inside
  have ahead := travel_ahead table window mover drawn.1 site start
  have tally : _ = progress.tally := tally_travel table window mover drawn.1 site start
  dsimp only [start] at carries ahead tally ⊢
  split
  · rename_i returns
    exact ⟨board_travel_of_returns (stands ▸ able.travels) returns, tally⟩
  · rename_i elsewhere
    obtain ⟨reached, origin, carried, cells, beyond⟩ := carries
    refine ⟨reached, elsewhere, ?_, ⟨origin, carried, fun other apart => ?_, beyond⟩,
      congrArg Tally.addMoved tally, ?_⟩
    · rw [Board.cell_put_self, cells, carried]
    · rw [Board.cell_put_of_ne _ _ apart, cells]
    · dsimp only
      rw [stands, steps]
      exact ahead

/-- A turn leaves board and tally as they were or leads the particle elsewhere, and without an
occupied cell that has not moved and has a direction of travel it does not even draw. -/
theorem move_outcome (table : ElementTable) (window : Window) (progress : Progress size σ)
    (inside : window.rows.contains site.y = true) :
    let turn := progress.move table window site
    progress.Outcome table window turn.2 site turn.1 ∧
      ((progress.board.cell site).isEmpty = true ∨ (progress.board.cell site).moved = true ∨
          (table.properties (progress.board.cell site).element).direction = 0 →
        turn = (none, progress)) := by
  dsimp only
  constructor
  · by_cases able : progress.board.Able table site
    · exact outcome_of_able able inside
    · rw [move_eq_none able]
      exact ⟨rfl, rfl⟩
  · intro idle
    refine move_eq_none fun able => ?_
    rcases idle with empty | moved | rests
    · exact absurd empty (by simp [able.occupied])
    · exact absurd moved (by simp [able.unmoved])
    · exact absurd rests able.travels

/-- A row of the shaft, whose left and right edges belong to its only column. -/
def shaftSite (row : Fin 3) : Site shaft := ⟨⟨0, Nat.one_pos⟩, row⟩

theorem shaft_outcome : (Rows.mk 0 3).contains 0 = true ∧
    let before := start (dropped ⟨1⟩) (Script.ofDraws #[])
    let turn := before.move pouring.elements ⟨.wrap, ⟨0, 3⟩⟩ (shaftSite ⟨0, by decide⟩)
    turn.1 = some (shaftSite ⟨1, by decide⟩) ∧
      before.Outcome pouring.elements ⟨.wrap, ⟨0, 3⟩⟩ turn.2 (shaftSite ⟨0, by decide⟩) turn.1 :=
  ⟨by decide, by decide +kernel,
    (move_outcome pouring.elements ⟨.wrap, ⟨0, 3⟩⟩ (start (dropped ⟨1⟩) (Script.ofDraws #[]))
      (by decide)).1⟩

end Progress
end FallingSand
