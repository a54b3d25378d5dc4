import FallingSand.Proofs.Tick.MovedOnce

/-!
# Settling never reverses

Where nothing rises, a particle changes places only with what is lighter, in its own row or in the
row below.  So for every threshold, the cells that are at least as dense as that get deeper or stay
as deep, all of them taken together.
-/

namespace FallingSand

variable {size : Size} {table : ElementTable} {edge : Edge} {threshold : Single}

theorem Single.le_of_le_of_lt {x y z : Single} (xy : x.le y = true) (yz : y.lt z = true) :
    x.le z = true := by
  simp only [le, lt, Bool.and_eq_true, decide_eq_true_eq] at *
  exact ⟨⟨xy.1.1, yz.1.2⟩, by omega⟩

/-! ## Depths -/

/-- The cell is occupied by an element at least as dense as the threshold. -/
def ElementTable.isDense (table : ElementTable) (threshold : Single) (cell : Cell) : Bool :=
  !cell.isEmpty && threshold.le (table.properties cell.element).density

namespace Board

/-- The row numbers of all dense cells together. -/
def depth (board : Board size) (table : ElementTable) (threshold : Single) : Nat :=
  ∑ site with table.isDense threshold (board.cell site) = true, site.y.val

/-- Every mobile element on the board falls. -/
def MobileFalls (board : Board size) (table : ElementTable) : Prop :=
  ∀ site, (board.cell site).isEmpty = false →
    (table.properties (board.cell site).element).isMobile = true →
      (table.properties (board.cell site).element).gravity.isPositive = true

variable {board next before after : Board size} {course : List (Board size)}

theorem depth_eq (board : Board size) (table : ElementTable) (threshold : Single) :
    board.depth table threshold = board.total fun site cell =>
      if table.isDense threshold cell = true then site.y.val else 0 :=
  Finset.sum_filter _ _

theorem depth_congr (same : ∀ site, (next.cell site).element = (board.cell site).element) :
    next.depth table threshold = board.depth table threshold := by
  rw [depth_eq, depth_eq]
  refine total_congr fun site => ?_
  rw [ElementTable.isDense, ElementTable.isDense, Cell.isEmpty, Cell.isEmpty, same]

theorem MobileFalls.of_origins (falls : board.MobileFalls table)
    (origins : ∀ site, ∃ origin, (next.cell site).element = (board.cell origin).element) :
    next.MobileFalls table := by
  intro site
  obtain ⟨origin, same⟩ := origins site
  rw [Cell.isEmpty, same]
  exact falls origin

/-- Whoever takes a turn where everything mobile falls, falls. -/
theorem MobileFalls.direction (falls : board.MobileFalls table) {site : Site size}
    (able : board.Able table site) :
    (table.properties (board.cell site).element).direction = 1 := by
  have mobile := Properties.isMobile_of_direction able.travels
  rw [Properties.direction, if_pos (falls site able.occupied mobile)]

/-- What a falling particle changes places with is less dense. -/
theorem Enters.isDense {site target : Site size} (able : board.Able table site)
    (enters : board.Enters table edge (table.properties (board.cell site).element) site target)
    (falls : (table.properties (board.cell site).element).direction = 1)
    (dense : table.isDense threshold (board.cell target) = true) :
    table.isDense threshold (board.cell site) = true := by
  have displaces := enters.displaces
  simp only [ElementTable.isDense, Bool.and_eq_true, Bool.not_eq_true'] at dense ⊢
  simp only [ElementTable.canDisplace, dense.1, Bool.false_or, Properties.outweighs, falls,
    if_true, Bool.and_eq_true] at displaces
  exact ⟨able.occupied, Single.le_of_le_of_lt dense.2 displaces.2⟩

/-- A step of a turn leads no dense cell up, all of them taken together. -/
theorem Writes.depth_le (writes : board.Writes table edge next) (falls : board.MobileFalls table) :
    next.MobileFalls table ∧ board.depth table threshold ≤ next.depth table threshold := by
  refine ⟨falls.of_origins writes.exists_origin, ?_⟩
  cases writes with
  | rest => exact Nat.le_refl _
  | @exchange site target able enters =>
      have direction := falls.direction able
      have heavier : table.isDense threshold (board.cell target) = true → _ :=
        enters.isDense able direction
      have totals := board.total_exchange
        (fun site cell => if table.isDense threshold cell = true then site.y.val else 0)
        enters.adjacent.1
      have ahead := enters.ahead
      rw [direction] at ahead
      rw [depth_eq, depth_eq]
      -- if they are not in the same row, the denser of the two cells goes down
      by_cases light : table.isDense threshold (board.cell target) = true
      · have heavy := heavier light
        rw [if_pos light, if_pos light, if_pos heavy, if_pos heavy] at totals
        omega
      · rw [if_neg light, if_neg light] at totals
        by_cases heavy : table.isDense threshold (board.cell site) = true
        · rw [if_pos heavy, if_pos heavy] at totals
          omega
        · rw [if_neg heavy, if_neg heavy] at totals
          omega
  | @mark site able =>
      refine Nat.le_of_eq (depth_congr fun other => ?_).symm
      rw [cell_put]
      split
      · rename_i here
        rw [here]
        rfl
      · rfl

/-- All the way of a phase of movement, the depth does not decrease. -/
theorem Leads.depth_le (leads : before.Leads table edge course after)
    (falls : before.MobileFalls table) (threshold : Single) :
    ((before :: course).map fun board => board.depth table threshold).Pairwise (· ≤ ·) ∧
      before.depth table threshold ≤ after.depth table threshold := by
  have grows := (leads.pairwise (P := fun board => board.MobileFalls table)
    (R := fun board next => board.depth table threshold ≤ next.depth table threshold)
    Writes.depth_le Nat.le_trans falls).2
  refine ⟨List.pairwise_map.mpr grows, ?_⟩
  rcases List.mem_cons.mp leads.mem_last with same | later
  · rw [same]
  · exact List.rel_of_pairwise_cons grows later

end Board

/-- In a phase of movement on a board where every mobile element falls, over some rows of a window,
over the whole board or in bands, the rows of all cells that are at least as dense as any threshold
never add up to less than before. -/
theorem depth_never_decreases (rules : RuleSet) (edge : Edge) {before : Board size}
    (falls : before.MobileFalls rules.elements) (threshold : Single) :
    let depth (board : Board size) := board.depth rules.elements threshold
    (∀ (σ : Type) [RandomSource σ] (reach rows : Rows) (tally : Tally) (source : σ),
      let progress : Progress size σ := { board := before, tally, source }
      let course := progress.courseAll rules.elements ⟨edge, reach⟩ rows
      ((before :: course).map depth).Pairwise (· ≤ ·) ∧
        depth before ≤ depth (Phase.move.run rules ⟨edge, reach⟩ rows progress).board) ∧
    (∀ (σ : Type) [RandomSource σ] (tally : Tally) (source : σ),
      let progress : Progress size σ := { board := before, tally, source }
      let course := Phase.courseWhole rules edge progress
      ((before :: course).map depth).Pairwise (· ≤ ·) ∧
        depth before ≤ depth (Phase.move.runWhole rules edge progress).board) ∧
    ∀ (bands : List Rows) (seed tick : UInt64) (tally : Tally),
      let course := Phase.courseBanded rules edge bands seed tick (before, tally)
      ((before :: course).map depth).Pairwise (· ≤ ·) ∧
        depth before ≤
          depth (Phase.move.runBanded rules edge bands seed tick (before, tally)).1 := by
  intro depth
  have same : depth (Phase.move.clear before) = depth before :=
    Board.depth_congr (Phase.element_clear .move before)
  have cleared : (Phase.move.clear before).MobileFalls rules.elements :=
    falls.of_origins fun site => ⟨site, Phase.element_clear .move before site⟩
  refine ⟨fun σ _ reach rows tally source => ?_, fun σ _ tally source => ?_,
    fun bands seed tick tally => ?_⟩
  · exact (Progress.leads_courseAll rules.elements ⟨edge, reach⟩ rows
      { board := before, tally, source }).depth_le falls threshold
  · have grows := (Phase.leads_courseWhole rules edge
      { board := before, tally, source }).depth_le cleared threshold
    intro progress course
    rw [List.map_cons, ← same]
    exact grows
  · have grows := (Phase.leads_courseBanded rules edge bands seed tick
      (before, tally)).depth_le cleared threshold
    intro course
    rw [List.map_cons, ← same]
    exact grows

theorem heap_depth : heap.MobileFalls pouring.elements ∧
    ∀ (bands : List Rows) (seed : UInt64),
      heap.depth pouring.elements Single.one ≤
        (Phase.move.runBanded pouring .wrap bands seed 0 (heap, Tally.zero)).1.depth
          pouring.elements Single.one := by
  have falls : heap.MobileFalls pouring.elements := by
    intro site _ mobile
    rcases cell_heap_cases site with here | here | here
    all_goals rw [here] at mobile ⊢; revert mobile; decide
  exact ⟨falls, fun bands seed =>
    ((depth_never_decreases pouring .wrap falls Single.one).2.2 bands seed 0 Tally.zero).2⟩

end FallingSand
