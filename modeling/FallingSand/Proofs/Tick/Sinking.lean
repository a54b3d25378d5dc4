import FallingSand.Proofs.Grid.Column
import FallingSand.Proofs.Number.Whole
import FallingSand.Proofs.Random.Shuffle
import FallingSand.Proofs.Turn.Motion

/-!
# Sinking in a single column

In a grid of one column whose cells are unoccupied or fall, all that can happen to a cell in a phase
of movement is to sink through the one below it.  So a phase either leaves the board as it is, with
every cell stuck and the column settled, or fewer pairs are out of order than before.
-/

namespace FallingSand

/-- Every cell is unoccupied or falls at least one step in a phase. -/
def Board.Falling {size : Size} (table : ElementTable) (board : Board size) : Prop :=
  ∀ site, (board.cell site).isEmpty = true ∨
    Single.one.le (table.properties (board.cell site).element).gravity = true

variable {size : Size} {σ : Type} [RandomSource σ] {table : ElementTable} {window : Window}
  {board : Board size} {site next : Site size}

/-! ## One step down -/

namespace Board

theorem Falling.exchange (falling : board.Falling table) (first second : Site size) :
    (board.exchange first second).Falling table := by
  intro site
  obtain ⟨origin, same⟩ := board.exists_origin_exchange first second site
  rw [same]
  exact falling origin

theorem Falling.markMoved (falling : board.Falling table) (site : Site size) :
    (board.put site (board.cell site).markMoved).Falling table := by
  intro other
  obtain ⟨origin, same⟩ := board.exists_origin_markMoved site other
  rw [Cell.isEmpty, same]
  exact falling origin

theorem column_markMoved (board : Board size) (site : Site size) :
    (board.put site (board.cell site).markMoved).column = board.column := by
  refine column_congr fun other => ?_
  rw [cell_put]
  split
  · rename_i here
    rw [here]
    rfl
  · rfl

theorem Falling.direction (falling : board.Falling table)
    (occupied : (board.cell site).isEmpty = false) :
    (table.properties (board.cell site).element).direction = 1 := by
  rcases falling site with empty | heavy
  · rw [occupied] at empty
    cases empty
  · exact Properties.direction_of_one_le heavy

/-- In a single column, a falling particle can only enter the site below. -/
theorem Enters.below {mover : Properties} {edge : Edge} (narrow : size.width = 1)
    (falls : mover.direction = 1) (enters : board.Enters table edge mover site next) :
    next.y.val = site.y.val + 1 := by
  have different : site.y.val ≠ next.y.val := fun same =>
    enters.adjacent.1 (Site.eq_of_y narrow same)
  have ahead := enters.ahead
  omega

theorem Enters.sinks {mover : Properties} {edge : Edge} (falls : mover.direction = 1)
    (occupied : (board.cell site).isEmpty = false)
    (stands : table.properties (board.cell site).element = mover)
    (enters : board.Enters table edge mover site next) :
    table.sinks (board.cell site).element (board.cell next).element = true := by
  have displaces := enters.displaces
  rw [Cell.isEmpty] at occupied
  simp only [ElementTable.canDisplace, Properties.outweighs, falls, if_true, Bool.or_eq_true,
    Bool.and_eq_true, Cell.isEmpty] at displaces
  rw [ElementTable.sinks, occupied, stands]
  simpa using displaces.imp_right And.right

end Board

/-! ## One turn -/

/-- A particle has come down from a site, or nothing has happened. -/
structure Board.Sunk (table : ElementTable) (mover : Properties) (start : Site size)
    (before : Board size) (site : Site size) (after : Board size) : Prop where
  /-- All cells fall as before. -/
  falling : after.Falling table
  /-- The particle is there. -/
  occupied : (after.cell site).isEmpty = false
  /-- It has the properties that it had. -/
  stands : table.properties (after.cell site).element = mover
  /-- It is where it was, or it is lower and fewer pairs are out of order. -/
  lowered : site = start ∧ after = before ∨ start.y.val < site.y.val ∧
    table.inversions after.column < table.inversions before.column

theorem Board.Sunk.exchange {mover : Properties} {start : Site size} {edge : Edge}
    {before : Board size} (narrow : size.width = 1) (falls : mover.direction = 1)
    (sunk : Sunk table mover start before site board)
    (enters : board.Enters table edge mover site next) :
    Sunk table mover start before next (board.exchange site next) := by
  have below := enters.below narrow falls
  have fewer := inversions_column_exchange narrow below
    (enters.sinks falls sunk.occupied sunk.stands)
  have arrived := board.cell_exchange_second site next
  refine ⟨sunk.falling.exchange site next, ?_, ?_, Or.inr ?_⟩
  · rw [arrived]
    exact sunk.occupied
  · rw [arrived]
    exact sunk.stands
  · rcases sunk.lowered with ⟨rfl, rfl⟩ | ⟨lower, less⟩
    · omega
    · omega

/-- If the cell is occupied and has not moved yet, it cannot enter the site below. -/
def Board.Stuck (table : ElementTable) (window : Window) (board : Board size) (site : Site size) :
    Prop :=
  (board.cell site).isEmpty = false → (board.cell site).moved = false →
    board.entrance? table window (table.properties (board.cell site).element) site ⟨0, 1⟩ = none

namespace Progress

variable {progress : Progress size σ} {mover : Properties}

theorem travel_of_enters (steps : Nat)
    (found : progress.board.entrance? table window mover site ⟨0, mover.direction⟩ = some next) :
    travel table window mover (steps + 1) site progress =
      travel table window mover steps next (progress.exchange site next) := by
  rw [travel, descend_add_one, found, travel]

/-- On its way a particle only sinks. -/
theorem sunk_travel (narrow : size.width = 1) (falls : mover.direction = 1) (window : Window)
    (steps : Nat) {start : Site size} {before : Board size} (progress : Progress size σ)
    (sunk : Board.Sunk table mover start before site progress.board) :
    Board.Sunk table mover start before (travel table window mover steps site progress).1
      (travel table window mover steps site progress).2.board := by
  have kept (site next : Site size) (board : Board size)
      (enters : board.Enters table window.edge mover site next)
      (sunk : Board.Sunk table mover start before site board) :
      Board.Sunk table mover start before next (board.exchange site next) :=
    sunk.exchange narrow falls enters
  exact drift_induction kept _ _ (descend_induction kept steps site progress sunk)

/-- A particle that does not get away from its site cannot enter the one below. -/
theorem stuck_of_stays (narrow : size.width = 1) (progress : Progress size σ)
    (falling : progress.board.Falling table)
    (stands : table.properties (progress.board.cell site).element = mover)
    (occupied : (progress.board.cell site).isEmpty = false) {steps : Nat} (positive : 0 < steps)
    (stays : (travel table window mover steps site progress).1 = site) :
    progress.board.Stuck table window site := by
  intro _ _
  have falls := falling.direction occupied
  rw [stands] at falls ⊢
  by_contra enters
  obtain ⟨next, found⟩ := Option.ne_none_iff_exists'.mp enters
  have below := (enters_of_entrance? found (Or.inl rfl) (Or.inr falls.symm)).below narrow falls
  obtain ⟨steps, rfl⟩ := Nat.exists_eq_add_one_of_ne_zero (Nat.ne_of_gt positive)
  -- the rest of the way leads from the next site further down
  have arrived : (progress.exchange site next).board.cell next = progress.board.cell site :=
    progress.board.cell_exchange_second site next
  have sunk := sunk_travel narrow falls window steps (progress.exchange site next)
    ⟨falling.exchange site next, by rw [arrived]; exact occupied,
      by rw [arrived]; exact stands, Or.inl ⟨rfl, rfl⟩⟩
  have lowered := sunk.lowered
  rw [← travel_of_enters steps (by rw [falls]; exact found), stays] at lowered
  rcases lowered with ⟨same, -⟩ | ⟨lower, -⟩
  · rw [same] at below
    omega
  · omega

/-- Either nothing has happened and the given sites are stuck, or fewer pairs are out of order. -/
def Lowers (table : ElementTable) (window : Window) (sites : List (Site size))
    (before after : Progress size σ) : Prop :=
  after.board = before.board ∧ after.tally = before.tally ∧
      (∀ site ∈ sites, before.board.Stuck table window site) ∨
    table.inversions after.board.column < table.inversions before.board.column

theorem lowers_move (narrow : size.width = 1) (rows : 0 < window.rows.count) (site : Site size)
    (falling : progress.board.Falling table) :
    (progress.move table window site).2.board.Falling table ∧
      Lowers table window [site] progress (progress.move table window site).2 := by
  rw [Lowers, List.forall_mem_singleton]
  by_cases able : progress.board.Able table site
  · have falls := falling.direction able.occupied
    have heavy := (falling site).resolve_left (by simp [able.occupied])
    generalize stands : table.properties (progress.board.cell site).element = mover at falls heavy
    have steps := Properties.drawSteps_pos heavy rows progress.source
    rw [move_eq able stands]
    generalize mover.drawSteps window.rows.count progress.source = drawn at steps
    have sunk := sunk_travel narrow falls window drawn.1 { progress with source := drawn.2 }
      ⟨falling, able.occupied, stands, Or.inl ⟨rfl, rfl⟩⟩
    have tally := tally_travel table window mover drawn.1 site { progress with source := drawn.2 }
    have stuck : _ → progress.board.Stuck table window site :=
      stuck_of_stays narrow { progress with source := drawn.2 } falling stands able.occupied steps
    dsimp only
    generalize travel table window mover drawn.1 site { progress with source := drawn.2 } = way at *
    split
    · rename_i stays
      rcases sunk.lowered with ⟨-, same⟩ | ⟨lower, -⟩
      · exact ⟨sunk.falling, Or.inl ⟨same, tally, stuck stays⟩⟩
      · rw [stays] at lower
        omega
    · rename_i leaves
      rcases sunk.lowered with ⟨stays, -⟩ | ⟨-, fewer⟩
      · exact absurd stays leaves
      · refine ⟨sunk.falling.markMoved way.1, Or.inr ?_⟩
        dsimp only at fewer ⊢
        rw [Board.column_markMoved]
        exact fewer
  · rw [move_eq_self able]
    refine ⟨falling, Or.inl ⟨rfl, rfl, fun occupied unmoved => absurd ⟨occupied, unmoved, ?_⟩ able⟩⟩
    rw [falling.direction occupied]
    decide

/-! ## A phase -/

omit [RandomSource σ] in
theorem Lowers.append {between after : Progress size σ} {sites others : List (Site size)}
    (first : Lowers table window sites progress between)
    (second : Lowers table window others between after) :
    Lowers table window (sites ++ others) progress after := by
  rcases first with ⟨board, tally, stuck⟩ | fewer
  · rcases second with ⟨boardAfter, tallyAfter, stuckAfter⟩ | fewer
    · refine Or.inl ⟨boardAfter.trans board, tallyAfter.trans tally, fun site listed => ?_⟩
      rw [board] at stuckAfter
      exact (List.mem_append.mp listed).elim (stuck site) (stuckAfter site)
    · exact Or.inr (board ▸ fewer)
  · rcases second with ⟨boardAfter, -, -⟩ | fewerStill
    · exact Or.inr (boardAfter ▸ fewer)
    · exact Or.inr (fewerStill.trans fewer)

theorem lowers_foldl (narrow : size.width = 1) (rows : 0 < window.rows.count)
    (movers : List (Mover size)) (progress : Progress size σ)
    (falling : progress.board.Falling table) :
    let after := movers.foldl (fun progress mover =>
      (progress.move table window mover.site).2) progress
    after.board.Falling table ∧ Lowers table window (movers.map Mover.site) progress after := by
  induction movers generalizing progress with
  | nil => exact ⟨falling, Or.inl ⟨rfl, rfl, by simp⟩⟩
  | cons mover movers induction =>
      obtain ⟨stillFalling, first⟩ := lowers_move narrow rows mover.site falling
      obtain ⟨final, rest⟩ := induction _ stillFalling
      exact ⟨final, first.append rest⟩

/-- In a phase, either nothing happens because all cells are stuck, or fewer pairs are out of
order. -/
theorem lowers_moveAll (narrow : size.width = 1) (rows : 0 < window.rows.count)
    (falling : progress.board.Falling table) :
    let after := progress.moveAll table window size.rows
    after.board.Falling table ∧
      (after.board = progress.board ∧ after.tally = progress.tally ∧
          (∀ site, progress.board.Stuck table window site) ∨
        table.inversions after.board.column < table.inversions progress.board.column) := by
  intro after
  have movers : ∀ mover ∈ (size.sites size.rows).filterMap (Mover.find? table progress.board),
      mover ∈ ((shuffle ((size.sites size.rows).filterMap
        (Mover.find? table progress.board)).toArray progress.source).1.toList.mergeSort
          Mover.goesBefore) := by
    intro mover listed
    rw [List.mem_mergeSort, Array.mem_toList_iff, mem_shuffle, List.mem_toArray]
    exact listed
  have lowers : _ ∧ Lowers table window _ _ after :=
    lowers_foldl narrow rows _ { progress with source := _ } falling
  refine lowers.imp_right (Or.imp_left ?_)
  rintro ⟨board, tally, stuck⟩
  refine ⟨board, tally, fun site occupied => ?_⟩
  have falls := falling.direction occupied
  obtain ⟨mover, found⟩ : ∃ mover, Mover.find? table progress.board site = some mover := by
    simp [Mover.find?, falls]
  have inside : site ∈ size.sites size.rows := by simp [Size.mem_sites, Size.rows]
  have listed := movers mover (List.mem_filterMap.mpr ⟨site, inside, found⟩)
  exact stuck site (List.mem_map.mpr ⟨mover, listed, Mover.site_of_find? found⟩) occupied

end Progress

/-! ## Boards at rest -/

/-- What sinks through a cell that has not moved may take its place. -/
theorem Board.Falling.canDisplace (falling : board.Falling table)
    (unmoved : (board.cell next).moved = false) {mover : Properties} (falls : mover.direction = 1)
    (stands : table.properties (board.cell site).element = mover)
    (sinks : table.sinks (board.cell site).element (board.cell next).element = true) :
    table.canDisplace mover (board.cell next) = true := by
  rw [ElementTable.sinks, stands, Bool.and_eq_true, Bool.or_eq_true] at sinks
  rw [ElementTable.canDisplace, Bool.or_eq_true]
  by_cases occupied : (board.cell next).isEmpty = false
  · have travels : (table.properties (board.cell next).element).direction ≠ 0 := by
      rw [falling.direction occupied]
      decide
    have mobile := Properties.isMobile_of_direction travels
    rcases sinks.2 with empty | lighter
    · exact Or.inl empty
    · exact Or.inr (by simp [unmoved, mobile, Properties.outweighs, falls, lighter])
  · exact Or.inl (by simpa using occupied)

/-- Where no cell can enter the site below, the column is settled. -/
theorem Board.settled_of_stuck (narrow : size.width = 1)
    (numbers : ∀ id, (table.properties id).density.isNaN = false) {edge : Edge}
    (falling : board.Falling table) (unmoved : ∀ site, (board.cell site).moved = false)
    (stuck : ∀ site, board.Stuck table (Window.whole size edge) site) :
    table.Settled board.column := by
  refine ElementTable.settled_of_neighbors numbers fun place inside => ?_
  have bound := board.length_column ▸ inside
  let upper : Site size := ⟨⟨0, size.width_pos⟩, ⟨place, by omega⟩⟩
  let lower : Site size := ⟨⟨0, size.width_pos⟩, ⟨place + 1, bound⟩⟩
  have above : board.column[place] = (board.cell upper).element :=
    (List.getElem_eq_iff _).mpr (getElem?_column narrow board upper)
  have below : board.column[place + 1] = (board.cell lower).element :=
    (List.getElem_eq_iff _).mpr (getElem?_column narrow board lower)
  rw [above, below, ← Bool.not_eq_true]
  intro sinks
  have occupied : (board.cell upper).isEmpty = false := by
    rw [ElementTable.sinks, Bool.and_eq_true, Bool.not_eq_true'] at sinks
    exact sinks.1
  have falls := falling.direction occupied
  have displaces := falling.canDisplace (unmoved lower) falls rfl sinks
  have under : upper.position + ⟨0, 1⟩ = lower.position := rfl
  have rows : (Window.whole size edge).rows.contains lower.y.val = true := by
    simp [Window.whole, Size.rows]
  have reached := (Window.whole size edge).resolve_position rows
  have different : lower ≠ upper := by
    intro same
    have rows := congrArg (fun site : Site size => site.y.val) same
    simp [upper, lower] at rows
  have entered := stuck upper occupied (unmoved upper)
  rw [entrance?, under, reached, Option.filter_some, displaces] at entered
  simp [different] at entered

end FallingSand
