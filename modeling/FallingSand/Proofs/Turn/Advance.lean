import FallingSand.Proofs.Turn.Course

/-!
# How far a turn leads

Every vertical step of a turn leads one row on in the direction of travel, whether the particle
goes straight ahead or slips off, and a step aside stays in its row.  Rows do not repeat, so a
particle that ends its turn where it began has not left its place at all.
-/

namespace FallingSand

variable {size : Size} {σ : Type} [RandomSource σ] {table : ElementTable} {window : Window}
  {mover : Properties}

/-! ## Single steps -/

theorem Board.row_of_entrance? {board : Board size} {site next : Site size} {offset : Position}
    (found : board.entrance? table window mover site offset = some next) :
    (next.y.val : Int) = site.y.val + offset.y :=
  (Window.resolve_eq_some (Option.filter_eq_some_iff.mp found).1).1.symm

namespace Progress

theorem row_of_drawSlide? {site next : Site size} {progress : Progress size σ}
    (slides : (progress.drawSlide? table window mover site).1 = some next) :
    (next.y.val : Int) = site.y.val + mover.direction := by
  obtain ⟨side, -, found⟩ := Option.bind_eq_some_iff.mp slides
  obtain ⟨offset, listed, entered⟩ := List.exists_of_findSome?_eq_some found
  have row := Board.row_of_entrance? entered
  simp only [diagonals, List.mem_cons, List.not_mem_nil, or_false] at listed
  rcases listed with rfl | rfl
  · exact row
  · exact row

/-- Vertical steps lead some rows on, and if they lead no row on, then nothing has happened to the
board. -/
theorem descend_advances (table : ElementTable) (window : Window) (mover : Properties)
    (steps : Nat) (site : Site size) (progress : Progress size σ) :
    let way := descend table window mover steps site progress
    ∃ taken ≤ steps, (way.1.y.val : Int) = site.y.val + taken * mover.direction ∧
      (taken = 0 → way.1 = site ∧ way.2.board = progress.board) := by
  induction steps generalizing site progress with
  | zero =>
      have row : (site.y.val : Int) = site.y.val + (0 : Nat) * mover.direction := by simp
      exact ⟨0, Nat.le_refl 0, row, fun _ => ⟨rfl, rfl⟩⟩
  | succ steps induction =>
      -- a step that is taken counts for one row, and then it does not matter what follows
      have further (next : Site size) (progress : Progress size σ)
          (ahead : (next.y.val : Int) = site.y.val + mover.direction) (start : Board size) :
          let way := descend table window mover steps next progress
          ∃ taken ≤ steps + 1, (way.1.y.val : Int) = site.y.val + taken * mover.direction ∧
            (taken = 0 → way.1 = site ∧ way.2.board = start) := by
        obtain ⟨taken, few, row, -⟩ := induction next progress
        refine ⟨taken + 1, Nat.succ_le_succ few, ?_, fun idle => by omega⟩
        rw [row, ahead, Int.natCast_succ, Int.add_mul, Int.one_mul]
        omega
      rw [descend_add_one]
      split
      · rename_i next found
        exact further next _ (Board.row_of_entrance? found) _
      · dsimp only
        split
        · rename_i next slides
          exact further next _ (row_of_drawSlide? slides) _
        · exact ⟨0, Nat.zero_le _, by simp, fun _ => ⟨rfl, rfl⟩⟩

/-- Drifting stays in the row. -/
theorem row_drift (table : ElementTable) (window : Window) (mover : Properties)
    (site : Site size) (progress : Progress size σ) :
    (drift table window mover site progress).1.y = site.y := by
  rw [drift]
  dsimp only
  split
  · rename_i next found
    obtain ⟨side, -, entered⟩ := Option.bind_eq_some_iff.mp found
    have row := Board.row_of_entrance? entered
    exact Fin.ext (Int.ofNat.inj (row.trans (Int.add_zero _)))
  · rfl

/-! ## Whole ways -/

/-- A particle that comes back to where it began has left the board as it was. -/
theorem board_travel_of_returns {steps : Nat} {site : Site size} {progress : Progress size σ}
    (travels : mover.direction ≠ 0)
    (returns : (travel table window mover steps site progress).1 = site) :
    (travel table window mover steps site progress).2.board = progress.board := by
  obtain ⟨taken, -, row, still⟩ := descend_advances table window mover steps site progress
  have stays : taken = 0 := by
    have level := row_drift table window mover
      (descend table window mover steps site progress).1
      (descend table window mover steps site progress).2
    rw [travel] at returns
    rw [← level, returns] at row
    have vanishes : (taken : Int) * mover.direction = 0 := by omega
    rcases Int.mul_eq_zero.mp vanishes with taken | rests
    · exact Int.ofNat.inj taken
    · exact absurd rests travels
  obtain ⟨here, same⟩ := still stays
  rw [travel] at returns ⊢
  rcases drift_cases table window mover (descend table window mover steps site progress).1
    (descend table window mover steps site progress).2 with ⟨-, rests⟩ | ⟨enters, -⟩
  · exact rests.trans same
  · exact absurd (here.trans returns.symm) enters.adjacent.1

/-- A turn to move either leaves the board and the tally as they were or counts one move. -/
theorem move_counts (table : ElementTable) (window : Window) (site : Site size)
    (progress : Progress size σ) :
    let after := (progress.move table window site).2
    after.board = progress.board ∧ after.tally = progress.tally ∨
      after.tally = progress.tally.addMoved := by
  by_cases able : progress.board.Able table site
  · rw [move_eq able rfl]
    generalize stands : table.properties (progress.board.cell site).element = mover
    generalize mover.drawSteps window.rows.count progress.source = drawn
    let start : Progress size σ := { progress with source := drawn.2 }
    have tally : _ = progress.tally := tally_travel table window mover drawn.1 site start
    dsimp only
    split
    · rename_i returns
      exact Or.inl ⟨board_travel_of_returns (stands ▸ able.travels) returns, tally⟩
    · exact Or.inr (congrArg Tally.addMoved tally)
  · rw [move_eq_self able]
    exact Or.inl ⟨rfl, rfl⟩

end Progress
end FallingSand
