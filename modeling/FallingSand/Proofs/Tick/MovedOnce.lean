import FallingSand.Proofs.Grid.Totals
import FallingSand.Proofs.Tick.Courses
import FallingSand.Proofs.Tick.Phases
import Mathlib.Algebra.BigOperators.Group.Finset.Piecewise

/-!
# Nothing moves twice

A particle is marked at the end of a turn that leads it anywhere, and then it is neither displaced
nor moved until the phase is over.  Unoccupied cells, which may be entered whatever their marks, are
never marked.  So as many cells are marked at the end as moves have been counted.
-/

namespace FallingSand

variable {size : Size} {table : ElementTable} {edge : Edge}

/-! ## Marked cells -/

namespace Board

/-- How many cells are marked as moved. -/
def movedCount (board : Board size) : Nat :=
  (Finset.univ.filter fun site => (board.cell site).moved = true).card

/-- All cells that are marked as moved are occupied. -/
def Marked (board : Board size) : Prop :=
  ∀ site, (board.cell site).moved = true → (board.cell site).isEmpty = false

/-- All cells that are marked as moved are the same on the next board. -/
def Spares (board next : Board size) : Prop :=
  ∀ site, (board.cell site).moved = true → next.cell site = board.cell site

variable {board next later : Board size}

theorem Spares.trans (first : board.Spares next) (second : next.Spares later) :
    board.Spares later := by
  intro site moved
  have same := first site moved
  rw [← same] at moved
  exact (second site moved).trans same

/-- On a board whose marked cells are occupied, a marked cell cannot be entered. -/
theorem Enters.unmoved {mover : Properties} {site target : Site size}
    (enters : board.Enters table edge mover site target) (marked : board.Marked) :
    (board.cell target).moved = false := by
  by_contra moved
  rw [Bool.not_eq_false] at moved
  have displaces := enters.displaces
  simp [ElementTable.canDisplace, marked target moved, moved] at displaces

/-- No step of a turn touches a marked cell or marks an unoccupied one. -/
theorem Writes.spares (writes : board.Writes table edge next) (marked : board.Marked) :
    next.Marked ∧ board.Spares next := by
  cases writes with
  | rest => exact ⟨marked, fun _ _ => rfl⟩
  | @exchange site target able enters =>
      have free := enters.unmoved marked
      constructor
      · intro other moved
        rw [cell_exchange] at moved ⊢
        split at moved
        · rw [able.unmoved] at moved
          cases moved
        · split at moved
          · rw [free] at moved
            cases moved
          · rw [if_neg ‹_›, if_neg ‹_›]
            exact marked other moved
      · intro other moved
        have here : other ≠ site := by
          rintro rfl
          simp [able.unmoved] at moved
        have there : other ≠ target := by
          rintro rfl
          simp [free] at moved
        rw [cell_exchange, if_neg there, if_neg here]
  | @mark site able =>
      constructor
      · intro other moved
        rw [cell_put] at moved ⊢
        split
        · exact able.occupied
        · rw [if_neg ‹_›] at moved
          exact marked other moved
      · intro other moved
        refine cell_put_of_ne _ _ ?_
        rintro rfl
        simp [able.unmoved] at moved

/-! ## Counting marks -/

theorem movedCount_eq (board : Board size) :
    board.movedCount = board.total fun _ cell => if cell.moved = true then 1 else 0 :=
  Finset.card_filter _ _

theorem movedCount_exchange {first second : Site size} (different : first ≠ second) :
    (board.exchange first second).movedCount = board.movedCount := by
  have totals := board.total_exchange (fun _ cell => if cell.moved = true then 1 else 0) different
  rw [movedCount_eq, movedCount_eq]
  omega

theorem movedCount_markMoved {site : Site size} (unmoved : (board.cell site).moved = false) :
    (board.put site (board.cell site).markMoved).movedCount = board.movedCount + 1 := by
  have totals := board.total_put (fun _ cell => if cell.moved = true then 1 else 0) site
    (board.cell site).markMoved
  have marked : (board.cell site).markMoved.moved = true := rfl
  rw [unmoved, marked, if_neg Bool.false_ne_true, if_pos rfl] at totals
  rw [movedCount_eq, movedCount_eq]
  exact totals

theorem movedCount_eq_zero (fresh : ∀ site, (board.cell site).moved = false) :
    board.movedCount = 0 := by
  rw [movedCount, Finset.card_eq_zero, Finset.filter_eq_empty_iff]
  simp [fresh]

end Board

/-! ## Turns -/

namespace Progress

variable {σ : Type} [RandomSource σ] {window : Window} {mover : Properties} {site : Site size}
  {progress : Progress size σ}

/-- On the way of a particle nothing is marked. -/
theorem movedCount_travel (table : ElementTable) (window : Window) (mover : Properties)
    (steps : Nat) (site : Site size) (progress : Progress size σ) :
    (travel table window mover steps site progress).2.board.movedCount =
      progress.board.movedCount := by
  have kept (site next : Site size) (board : Board size)
      (enters : board.Enters table window.edge mover site next)
      (counted : board.movedCount = progress.board.movedCount) :
      (board.exchange site next).movedCount = progress.board.movedCount :=
    (Board.movedCount_exchange enters.adjacent.1).trans counted
  exact drift_induction (P := fun _ board => board.movedCount = progress.board.movedCount) kept _ _
    (descend_induction kept steps site progress rfl)

/-- A turn marks as many cells as it counts. -/
theorem movedCount_move (table : ElementTable) (window : Window) (site : Site size)
    (progress : Progress size σ) :
    (progress.move table window site).2.board.movedCount + progress.tally.moved =
      progress.board.movedCount + (progress.move table window site).2.tally.moved := by
  by_cases able : progress.board.Able table site
  · rw [move_eq able rfl]
    generalize stands : table.properties (progress.board.cell site).element = mover
    generalize mover.drawSteps window.rows.count progress.source = drawn
    let start : Progress size σ := { progress with source := drawn.2 }
    have begins : OnWay table mover site start.board := ⟨able, stands⟩
    have arrived := begins.travel window drawn.1
    have marks : _ = progress.board.movedCount :=
      movedCount_travel table window mover drawn.1 site start
    have tally : _ = progress.tally := tally_travel table window mover drawn.1 site start
    dsimp only
    split
    · rw [marks, tally]
    · rw [Board.movedCount_markMoved arrived.able.unmoved, marks, tally]
      dsimp only [Tally.addMoved]
      omega
  · rw [move_eq_self able]

end Progress

/-! ## Phases -/

/-- On the way from one board to another, no cell that has moved is touched. -/
structure MovesOnce (table : ElementTable) (edge : Edge) (before : Board size)
    (course : List (Board size)) (after : Board size) : Prop where
  /-- One step of a turn leads from each board to the next one, up to the last. -/
  leads : before.Leads table edge course after
  /-- On every board, the cells that have moved are occupied. -/
  occupied : ∀ board ∈ before :: course, ∀ site,
    (board.cell site).moved = true → (board.cell site).isEmpty = false
  /-- A cell that has moved is the same on every later board. -/
  stays : (before :: course).Pairwise fun earlier later => ∀ site,
    (earlier.cell site).moved = true → later.cell site = earlier.cell site

theorem Board.Leads.movesOnce {before after : Board size} {course : List (Board size)}
    (leads : before.Leads table edge course after)
    (fresh : ∀ site, (before.cell site).moved = false) :
    MovesOnce table edge before course after := by
  have marked : before.Marked := by
    intro site moved
    rw [fresh site] at moved
    cases moved
  obtain ⟨occupied, stays⟩ := leads.pairwise (P := Board.Marked) (R := Board.Spares)
    Board.Writes.spares Board.Spares.trans marked
  exact ⟨leads, occupied, stays⟩

theorem move_keeps_movedCount (rules : RuleSet) (edge : Edge) (start : Nat) :
    Phase.move.Keeps rules edge fun (board : Board size) tally =>
      tally.moved = start + board.movedCount := by
  refine Phase.move_keeps fun reach site progress counted => ?_
  have turn := progress.movedCount_move rules.elements ⟨edge, reach⟩ site
  omega

/-- In the course of a phase of movement that begins without marks, over some rows of a window, over
the whole board or in bands, no cell that has moved is displaced, rewritten or moved again, and as
many cells are marked at the end as moves have been counted. -/
theorem moves_once (rules : RuleSet) (edge : Edge) :
    (∀ (σ : Type) [RandomSource σ] (reach rows : Rows) (progress : Progress size σ),
      (∀ site, (progress.board.cell site).moved = false) →
        let after := Phase.move.run rules ⟨edge, reach⟩ rows progress
        MovesOnce rules.elements edge progress.board
            (progress.courseAll rules.elements ⟨edge, reach⟩ rows) after.board ∧
          after.tally.moved = progress.tally.moved + after.board.movedCount) ∧
    (∀ (σ : Type) [RandomSource σ] (progress : Progress size σ),
      let after := Phase.move.runWhole rules edge progress
      MovesOnce rules.elements edge (Phase.move.clear progress.board)
          (Phase.courseWhole rules edge progress) after.board ∧
        after.tally.moved = progress.tally.moved + after.board.movedCount) ∧
    ∀ (bands : List Rows) (seed tick : UInt64) (state : Board size × Tally),
      let after := Phase.move.runBanded rules edge bands seed tick state
      MovesOnce rules.elements edge (Phase.move.clear state.1)
          (Phase.courseBanded rules edge bands seed tick state) after.1 ∧
        after.2.moved = state.2.moved + after.1.movedCount := by
  have cleared (board : Board size) (site : Site size) :
      ((Phase.move.clear board).cell site).moved = false := by
    rw [Phase.cell_clear]
    rfl
  have unmarked {board : Board size} (fresh : ∀ site, (board.cell site).moved = false)
      (tally : Tally) : tally.moved = tally.moved + board.movedCount := by
    rw [Board.movedCount_eq_zero fresh, Nat.add_zero]
  refine ⟨fun σ _ reach rows progress fresh => ⟨?_, ?_⟩, fun σ _ progress => ⟨?_, ?_⟩,
    fun bands seed tick state => ⟨?_, ?_⟩⟩
  · exact (progress.leads_courseAll rules.elements ⟨edge, reach⟩ rows).movesOnce fresh
  · exact move_keeps_movedCount rules edge _ σ reach rows progress (unmarked fresh _)
  · exact (Phase.leads_courseWhole rules edge progress).movesOnce (cleared _)
  · exact (move_keeps_movedCount rules edge _).runWhole progress (unmarked (cleared _) _)
  · exact (Phase.leads_courseBanded rules edge bands seed tick state).movesOnce (cleared _)
  · exact (move_keeps_movedCount rules edge _).runBanded bands seed tick state
      (unmarked (cleared _) _)

/-- Sand that falls through water, which falls as fast but is lighter. -/
def pouring : RuleSet :=
  let void : Element :=
    { id := ElementId.empty, name := emptyName, color := none, displayName := none,
      description := "", tags := [], properties := Properties.none, relations := [] }
  let sand : Element :=
    { void with
      id := ⟨1⟩
      name := "Sand"
      properties := { PerProperty.fill Single.one with spread := Single.half } }
  let water : Element :=
    { sand with id := ⟨2⟩, name := "Water", properties := PerProperty.fill Single.half }
  RuleSet.ofRules none ⟨#[void, sand, water], by decide⟩ Registry.empty [] []

/-- Two rows of sand above one of water and one of nothing. -/
def heap : Board ⟨2, 4, by decide, by decide, by decide⟩ :=
  ((Board.empty _).fill (Size.sites _ ⟨0, 2⟩) (Cell.ofElement ⟨1⟩)).fill
    (Size.sites _ ⟨2, 3⟩) (Cell.ofElement ⟨2⟩)

theorem cell_heap_cases (site : Site ⟨2, 4, by decide, by decide, by decide⟩) :
    heap.cell site = Cell.ofElement ⟨2⟩ ∨ heap.cell site = Cell.ofElement ⟨1⟩ ∨
      heap.cell site = Cell.empty := by
  rw [heap, Board.cell_fill]
  split
  · exact .inl rfl
  · rw [Board.cell_fill]
    split
    · exact .inr (.inl rfl)
    · exact .inr (.inr (Vector.getElem_replicate site.number.isLt))

theorem cell_heap_unmoved (site : Site ⟨2, 4, by decide, by decide, by decide⟩) :
    (heap.cell site).moved = false := by
  rcases cell_heap_cases site with here | here | here <;> rw [here] <;> rfl

theorem heap_moves_once : (∀ site, (heap.cell site).moved = false) ∧
    let progress := Progress.start heap (Xoshiro.ofSeed 7)
    let after := Phase.move.run pouring ⟨.wrap, ⟨0, 4⟩⟩ ⟨1, 3⟩ progress
    MovesOnce pouring.elements .wrap heap
        (progress.courseAll pouring.elements ⟨.wrap, ⟨0, 4⟩⟩ ⟨1, 3⟩) after.board ∧
      after.tally.moved = after.board.movedCount := by
  refine ⟨cell_heap_unmoved, ?_⟩
  have once := (moves_once pouring .wrap).1 Xoshiro ⟨0, 4⟩ ⟨1, 3⟩
    (Progress.start heap (Xoshiro.ofSeed 7)) cell_heap_unmoved
  exact ⟨once.1, once.2.trans (Nat.zero_add _)⟩

end FallingSand
