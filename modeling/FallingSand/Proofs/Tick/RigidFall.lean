import FallingSand.Proofs.Grid.Sites
import FallingSand.Proofs.Tick.Courses
import FallingSand.Proofs.Tick.MovedOnce
import FallingSand.Proofs.Tick.Settling
import FallingSand.Proofs.Turn.Advance

/-!
# Falling without order of density

In a single column of equally dense cells that fall one step in a phase, a cell can only enter an
unoccupied site below it.  The lowest cells go first, so the site below a cell has just been left by
its turn if there is a gap anywhere further down.  Hence all cells above the lowest gap come down by
one, and those below it stay.
-/

namespace FallingSand

variable {size : Size} {σ : Type} [RandomSource σ] {table : ElementTable} {window : Window}
  {density : Single} {before after board : Board size} {site lower : Site size}

/-! ## One turn -/

namespace Board

/-- Every occupied cell falls one step in a phase and has the given density.  Densities are the same
here if their bits are, so the two zeros differ. -/
def Rigid (table : ElementTable) (density : Single) (board : Board size) : Prop :=
  ∀ site, (board.cell site).isEmpty = false →
    (table.properties (board.cell site).element).gravity = Single.one ∧
      (table.properties (board.cell site).element).density = density

theorem Rigid.direction (rigid : board.Rigid table density)
    (occupied : (board.cell site).isEmpty = false) :
    (table.properties (board.cell site).element).direction = 1 := by
  refine Properties.direction_of_one_le ?_
  rw [(rigid site occupied).1]
  decide

theorem Rigid.exchange (rigid : board.Rigid table density) (first second : Site size) :
    (board.exchange first second).Rigid table density := by
  intro site
  obtain ⟨origin, same⟩ := board.exists_origin_exchange first second site
  rw [same]
  exact rigid origin

theorem Rigid.markMoved (rigid : board.Rigid table density) (site : Site size) :
    (board.put site (board.cell site).markMoved).Rigid table density := by
  intro other
  obtain ⟨origin, same⟩ := board.exists_origin_markMoved site other
  rw [Cell.isEmpty, same]
  exact rigid origin

/-- All that a cell of the column can enter is an unoccupied site below it. -/
theorem Rigid.entered (narrow : size.width = 1) (rigid : board.Rigid table density) {edge : Edge}
    (occupied : (board.cell site).isEmpty = false)
    (enters : board.Enters table edge (table.properties (board.cell site).element) site lower) :
    lower.y.val = site.y.val + 1 ∧ (board.cell lower).isEmpty = true := by
  have falls := rigid.direction occupied
  refine ⟨enters.below narrow falls, ?_⟩
  by_contra full
  rw [Bool.not_eq_true] at full
  have displaces := enters.displaces
  rw [ElementTable.canDisplace, Properties.outweighs, if_pos falls, (rigid site occupied).2,
    (rigid lower full).2, full, Single.lt_irrefl] at displaces
  simp at displaces

end Board

namespace Progress

variable {progress : Progress size σ}

/-- In a single column nobody drifts. -/
theorem drift_narrow (narrow : size.width = 1) (table : ElementTable) (window : Window)
    (mover : Properties) (site : Site size) (progress : Progress size σ) :
    (drift table window mover site progress).1 = site ∧
      (drift table window mover site progress).2.board = progress.board := by
  rcases drift_cases table window mover site progress with still | ⟨enters, -⟩
  · exact still
  · have level := row_drift table window mover site progress
    exact absurd (Site.eq_of_y narrow (congrArg Fin.val level).symm) enters.adjacent.1

/-- The way of a cell of the column is one step. -/
theorem move_rigid (narrow : size.width = 1) (room : 0 < window.rows.count)
    (rigid : progress.board.Rigid table density) (able : progress.board.Able table site) :
    ∃ source : σ,
      let way := descend table window (table.properties (progress.board.cell site).element) 1 site
        { progress with source }
      (progress.move table window site).2.board =
        if way.1 = site then way.2.board
        else way.2.board.put way.1 (way.2.board.cell way.1).markMoved := by
  have unit := (rigid site able.occupied).1
  generalize stands : table.properties (progress.board.cell site).element = mover at unit ⊢
  have once : (mover.drawSteps window.rows.count progress.source).1 = 1 := by
    have heavy : Single.one.le mover.gravity = true := by
      rw [unit]
      decide
    have light : mover.gravity.abs.le Single.one = true := by
      rw [unit]
      decide
    have positive := Properties.drawSteps_pos heavy room progress.source
    have few := Properties.drawSteps_of_le_one light room progress.source
    rw [few.1] at positive ⊢
    omega
  rw [move_eq able stands]
  generalize mover.drawSteps window.rows.count progress.source = drawn at once
  refine ⟨drawn.2, ?_⟩
  dsimp only
  rw [once, travel]
  obtain ⟨here, same⟩ := drift_narrow narrow table window mover
    (descend table window mover 1 site { progress with source := drawn.2 }).1
    (descend table window mover 1 site { progress with source := drawn.2 }).2
  rw [apply_ite (fun after : Progress size σ => after.board)]
  dsimp only
  rw [here, same]

/-- A cell above an unoccupied site comes down. -/
theorem move_of_open (narrow : size.width = 1) (room : 0 < window.rows.count)
    (rigid : progress.board.Rigid table density) (able : progress.board.Able table site)
    (below : lower.y.val = site.y.val + 1) (reached : window.rows.contains lower.y.val = true)
    (free : (progress.board.cell lower).isEmpty = true) :
    (progress.move table window site).2.board =
      (progress.board.exchange site lower).put lower
        ((progress.board.exchange site lower).cell lower).markMoved := by
  have different : lower ≠ site := by
    rintro rfl
    omega
  have under : site.position + ⟨0, 1⟩ = lower.position := by
    have columns : site.x.val = lower.x.val := by
      have one := site.x.isLt
      have other := lower.x.isLt
      omega
    change Position.mk ((site.x.val : Int) + 0) (site.y.val + 1) = ⟨lower.x.val, lower.y.val⟩
    rw [columns, below, Int.add_zero, Int.natCast_succ]
  have found : progress.board.entrance? table window
      (table.properties (progress.board.cell site).element) site
      ⟨0, (table.properties (progress.board.cell site).element).direction⟩ = some lower := by
    rw [rigid.direction able.occupied, Board.entrance?, under, window.resolve_position reached,
      Option.filter_some]
    simp [different, ElementTable.canDisplace, free]
  obtain ⟨source, moved⟩ := move_rigid narrow room rigid able
  have way : descend table window (table.properties (progress.board.cell site).element) 1 site
      { progress with source } = (lower, { progress with source }.exchange site lower) := by
    rw [descend_add_one, found]
    rfl
  rw [way] at moved
  exact moved.trans (if_neg different)

/-- A cell above an occupied site, or at the bottom, stays. -/
theorem move_of_shut (narrow : size.width = 1) (room : 0 < window.rows.count)
    (rigid : progress.board.Rigid table density) (able : progress.board.Able table site)
    (shut : ∀ lower, lower.y.val = site.y.val + 1 →
      (progress.board.cell lower).isEmpty = false) :
    (progress.move table window site).2.board = progress.board := by
  obtain ⟨source, moved⟩ := move_rigid narrow room rigid able
  rw [moved]
  rcases descend_succ table window (table.properties (progress.board.cell site).element) 0 site
    { progress with source } with ⟨stays, same⟩ | ⟨enters, -⟩
  · exact (if_pos stays).trans same
  · obtain ⟨below, free⟩ := rigid.entered narrow able.occupied enters
    have full := shut _ below
    rw [free] at full
    cases full

end Progress

/-! ## Columns that come down by one -/

/-- The column with its lowest gap taken out and a gap put on top, or the column itself if it has no
gap. -/
def fallen (column : List ElementId) : List ElementId :=
  if ElementId.empty ∈ column then
    ElementId.empty :: (column.reverse.erase ElementId.empty).reverse
  else column

section Fallen

variable {below column : List ElementId}

theorem fallen_of_full (full : ElementId.empty ∉ column) : fallen column = column :=
  if_neg full

theorem fallen_append (above : List ElementId) (full : ElementId.empty ∉ below) :
    fallen (above ++ ElementId.empty :: below) = ElementId.empty :: (above ++ below) := by
  have first : ElementId.empty ∉ below.reverse := by simpa using full
  rw [fallen, if_pos (by simp), List.reverse_append, List.reverse_cons, List.append_assoc,
    List.erase_append_right _ first]
  simp

/-- Below its lowest gap a column is full. -/
theorem exists_lowest_gap (gap : ElementId.empty ∈ column) :
    ∃ above below, column = above ++ ElementId.empty :: below ∧ ElementId.empty ∉ below := by
  obtain ⟨below, above, split, full⟩ := List.eq_append_cons_of_mem (List.mem_reverse.mpr gap)
  refine ⟨above.reverse, below.reverse, ?_, by simpa using full⟩
  rw [← List.reverse_reverse column, split]
  simp

/-- What comes down in a column that reaches one row higher. -/
theorem exists_fallen_cons (gap : ElementId.empty ∈ column) (element : ElementId) :
    ∃ beneath, fallen column = ElementId.empty :: beneath ∧
      fallen (element :: column) = ElementId.empty :: element :: beneath := by
  obtain ⟨above, below, rfl, full⟩ := exists_lowest_gap gap
  exact ⟨above ++ below, fallen_append above full, fallen_append (element :: above) full⟩

/-- At the top, a gap stays where it is, and so does whatever stands on a full column. -/
theorem fallen_cons_of_still {element : ElementId}
    (still : element = ElementId.empty ∨ ElementId.empty ∉ column) :
    fallen (element :: column) = element :: fallen column := by
  by_cases gap : ElementId.empty ∈ column
  · obtain rfl := still.resolve_right (not_not.mpr gap)
    obtain ⟨beneath, first, second⟩ := exists_fallen_cons gap ElementId.empty
    rw [first, second]
  · rw [fallen_of_full gap]
    by_cases top : element = ElementId.empty
    · rw [top]
      exact fallen_append [] gap
    · exact fallen_of_full (by simpa [Ne.symm top] using gap)

end Fallen

/-! ## The lower part of a column has come down -/

namespace Board

/-- The cells from a row on have had their turns, and all above that row are as they were. -/
structure Shifted (table : ElementTable) (density : Single) (before : Board size) (row : Nat)
    (after : Board size) : Prop where
  /-- Every cell still falls one step and has the given density. -/
  rigid : after.Rigid table density
  /-- From the row on, the column has come down. -/
  fell : after.column.drop row = fallen (before.column.drop row)
  /-- Above the row, nothing has happened. -/
  kept : ∀ site : Site size, site.y.val < row → after.cell site = before.cell site
  /-- What occupies a site that was unoccupied has moved. -/
  marked : ∀ site, (before.cell site).isEmpty = true →
    (after.cell site).isEmpty = true ∨ (after.cell site).moved = true

theorem Rigid.shifted (rigid : before.Rigid table density) :
    Shifted table density before size.height before := by
  refine ⟨rigid, ?_, fun _ _ => rfl, fun _ empty => Or.inl empty⟩
  rw [List.drop_of_length_le before.length_column.le]
  rfl

/-- An unoccupied site, or one that stands on a full column, stays as it is. -/
theorem Shifted.stay (narrow : size.width = 1)
    (shifted : Shifted table density before (site.y.val + 1) after)
    (still : (before.cell site).isEmpty = true ∨
      ElementId.empty ∉ before.column.drop (site.y.val + 1)) :
    Shifted table density before site.y.val after := by
  refine ⟨shifted.rigid, ?_, fun other higher => shifted.kept other (by omega), shifted.marked⟩
  have here := shifted.kept site (Nat.lt_succ_self _)
  rw [after.drop_column narrow site, before.drop_column narrow site, here, shifted.fell,
    fallen_cons_of_still (still.imp_left beq_iff_eq.mp)]

/-- Unoccupied sites next to each other stay as they are. -/
theorem Shifted.stayTo (narrow : size.width = 1) {low high : Nat} (order : low ≤ high)
    (within : high ≤ size.height) (shifted : Shifted table density before high after)
    (empty : ∀ site : Site size, low ≤ site.y.val → site.y.val < high →
      (before.cell site).isEmpty = true) :
    Shifted table density before low after := by
  induction high, order using Nat.le_induction with
  | base => exact shifted
  | succ high order induction =>
      let site : Site size := ⟨⟨0, size.width_pos⟩, ⟨high, within⟩⟩
      have reached : Shifted table density before (site.y.val + 1) after := shifted
      have lower := reached.stay narrow (Or.inl (empty site order (Nat.lt_succ_self high)))
      exact induction (Nat.le_of_succ_le within) lower fun other above below =>
        empty other above (Nat.lt_succ_of_lt below)

/-- Whatever has come down to a site that was unoccupied has had its turn. -/
theorem Shifted.not_able {row : Nat} (shifted : Shifted table density before row after)
    (empty : (before.cell site).isEmpty = true) : ¬after.Able table site := by
  intro able
  rcases shifted.marked site empty with still | moved
  · rw [able.occupied] at still
    cases still
  · rw [able.unmoved] at moved
    cases moved

/-- In a column with a gap, the site below a cell has been left by the time of its turn. -/
theorem Shifted.free (narrow : size.width = 1) {row : Nat}
    (shifted : Shifted table density before row after)
    (gap : ElementId.empty ∈ before.column.drop row) :
    ∃ lower : Site size, lower.y.val = row ∧ (after.cell lower).isEmpty = true := by
  have inside : row < size.height := by
    have positive := List.length_pos_of_mem gap
    rw [List.length_drop, before.length_column] at positive
    omega
  let lower : Site size := ⟨⟨0, size.width_pos⟩, ⟨row, inside⟩⟩
  obtain ⟨beneath, falls, -⟩ := exists_fallen_cons gap ElementId.empty
  have there := (after.drop_column narrow lower).symm.trans (shifted.fell.trans falls)
  exact ⟨lower, rfl, beq_iff_eq.mpr (List.cons.inj there).1⟩

/-- In a column without a gap, nothing has come down. -/
theorem Shifted.full (narrow : size.width = 1) {row : Nat}
    (shifted : Shifted table density before row after)
    (full : ElementId.empty ∉ before.column.drop row) (row_eq : lower.y.val = row) :
    (after.cell lower).isEmpty = false := by
  have there := after.drop_column narrow lower
  rw [row_eq, shifted.fell, fallen_of_full full] at there
  rw [← Bool.not_eq_true]
  intro empty
  refine full ?_
  rw [there, beq_iff_eq.mp empty]
  exact List.mem_cons_self

/-- A cell comes down to the site that has been left for it. -/
theorem Shifted.comeDown (narrow : size.width = 1)
    (shifted : Shifted table density before (site.y.val + 1) after)
    (gap : ElementId.empty ∈ before.column.drop (site.y.val + 1))
    (occupied : (before.cell site).isEmpty = false) (below : lower.y.val = site.y.val + 1) :
    Shifted table density before site.y.val ((after.exchange site lower).put lower
      ((after.exchange site lower).cell lower).markMoved) := by
  refine ⟨(shifted.rigid.exchange site lower).markMoved lower, ?_, ?_, ?_⟩
  · obtain ⟨above, rest, row, old, new⟩ := after.column_exchange narrow below
    obtain ⟨beneath, falls, fallsOn⟩ := exists_fallen_cons gap (before.cell site).element
    have beneathIt : after.column.drop (site.y.val + 1) = (after.cell lower).element :: rest := by
      have split := after.drop_column narrow site
      rw [old, List.drop_left' row, ← old] at split
      exact (List.cons.inj split).2.symm
    obtain ⟨left, others⟩ := List.cons.inj (beneathIt.symm.trans (shifted.fell.trans falls))
    rw [column_markMoved, new, List.drop_left' row, before.drop_column narrow site, fallsOn, left,
      others, shifted.kept site (Nat.lt_succ_self _)]
  · intro other higher
    have upper : other ≠ site ∧ other ≠ lower := by
      constructor <;> rintro rfl <;> omega
    rw [cell_put_of_ne _ _ upper.2, cell_exchange, if_neg upper.2, if_neg upper.1]
    exact shifted.kept other (by omega)
  · intro other empty
    by_cases arrived : other = lower
    · rw [arrived, cell_put_self]
      exact Or.inr rfl
    · have apart : other ≠ site := by
        rintro rfl
        rw [occupied] at empty
        cases empty
      rw [cell_put_of_ne _ _ arrived, cell_exchange, if_neg arrived, if_neg apart]
      exact shifted.marked other empty

end Board

/-! ## The next turn -/

namespace Progress

variable {progress : Progress size σ} {edge : Edge}

/-- The turn of the cell right above the part of the column that has come down. -/
theorem shifted_move (narrow : size.width = 1) (unmoved : (before.cell site).moved = false)
    (occupied : (before.cell site).isEmpty = false)
    (shifted : Board.Shifted table density before (site.y.val + 1) progress.board) :
    Board.Shifted table density before site.y.val
      (progress.move table (Window.whole size edge) site).2.board := by
  have room : 0 < (Window.whole size edge).rows.count := by
    simp [Window.whole, Size.rows, Rows.count, size.height_pos]
  have here := shifted.kept site (Nat.lt_succ_self _)
  rw [← here] at unmoved
  have stands : (progress.board.cell site).isEmpty = false := here ▸ occupied
  have able : progress.board.Able table site := by
    refine ⟨stands, unmoved, ?_⟩
    rw [shifted.rigid.direction stands]
    decide
  by_cases gap : ElementId.empty ∈ before.column.drop (site.y.val + 1)
  · obtain ⟨lower, below, free⟩ := shifted.free narrow gap
    have reached : (Window.whole size edge).rows.contains lower.y.val = true := by
      simp [Window.whole, Size.rows]
    rw [move_of_open narrow room shifted.rigid able below reached free]
    exact shifted.comeDown narrow gap occupied below
  · rw [move_of_shut narrow room shifted.rigid able fun lower => shifted.full narrow gap]
    exact shifted.stay narrow (Or.inr gap)

end Progress

/-! ## The order of the turns -/

/-- The sites whose turns are still to come: every occupied one above a row, the lower ones
first. -/
structure Board.Queue (before : Board size) (row : Nat) (sites : List (Site size)) : Prop where
  /-- Nobody has two turns. -/
  distinct : sites.Nodup
  /-- Of two occupied sites, the upper one does not come first. -/
  sorted : sites.Pairwise fun first second => (before.cell first).isEmpty = false →
    (before.cell second).isEmpty = false → second.y.val ≤ first.y.val
  /-- All occupied sites above the row are waiting, and no others. -/
  waiting : ∀ site, (before.cell site).isEmpty = false → (site ∈ sites ↔ site.y.val < row)

namespace Board.Queue

variable {row : Nat} {sites : List (Site size)}

theorem waiting_tail (queue : Queue before row (site :: sites)) {other : Site size}
    (there : (before.cell other).isEmpty = false) (different : other ≠ site) :
    other ∈ sites ↔ other.y.val < row := by
  rw [← queue.waiting other there, List.mem_cons, or_iff_right different]

/-- The turn of an unoccupied site changes nothing about the others. -/
theorem tail (queue : Queue before row (site :: sites))
    (empty : (before.cell site).isEmpty = true) : Queue before row sites := by
  refine ⟨queue.distinct.of_cons, queue.sorted.of_cons, fun other there => ?_⟩
  refine queue.waiting_tail there ?_
  rintro rfl
  rw [there] at empty
  cases empty

/-- An occupied site is the lowest one when its turn comes. -/
theorem next (narrow : size.width = 1) (queue : Queue before row (site :: sites))
    (occupied : (before.cell site).isEmpty = false) :
    site.y.val < row ∧ Queue before site.y.val sites ∧
      ∀ other : Site size, site.y.val < other.y.val → other.y.val < row →
        (before.cell other).isEmpty = true := by
  have above := (queue.waiting site occupied).mp List.mem_cons_self
  obtain ⟨fresh, distinct⟩ := List.nodup_cons.mp queue.distinct
  obtain ⟨first, sorted⟩ := List.pairwise_cons.mp queue.sorted
  refine ⟨above, ⟨distinct, sorted, fun other there => ⟨fun listed => ?_, fun higher => ?_⟩⟩,
    fun other lower higher => ?_⟩
  · have order := first other listed occupied there
    refine lt_of_le_of_ne order fun same => fresh ?_
    rw [← Site.eq_of_y narrow same]
    exact listed
  · have different : other ≠ site := by
      rintro rfl
      omega
    exact (queue.waiting_tail there different).mpr (higher.trans above)
  · by_contra there
    rw [Bool.not_eq_true] at there
    have different : other ≠ site := by
      rintro rfl
      omega
    have order := first other ((queue.waiting_tail there different).mpr higher) occupied there
    omega

end Board.Queue

/-! ## A phase -/

namespace Progress

variable {progress : Progress size σ}

/-- When every cell above a row has had its turn, the lower ones first, the column has come down. -/
theorem shifted_foldl (edge : Edge) (narrow : size.width = 1)
    (unmoved : ∀ site, (before.cell site).moved = false) (sites : List (Site size)) (row : Nat)
    (within : row ≤ size.height) (queue : before.Queue row sites) (progress : Progress size σ)
    (shifted : Board.Shifted table density before row progress.board) :
    Board.Shifted table density before 0 (sites.foldl (fun progress site =>
      (progress.move table (Window.whole size edge) site).2) progress).board := by
  induction sites generalizing row progress with
  | nil =>
      refine shifted.stayTo narrow (Nat.zero_le row) within fun site _ above => ?_
      by_contra occupied
      have listed := (queue.waiting site (Bool.not_eq_true _ ▸ occupied)).mpr above
      cases listed
  | cons site sites induction =>
      rw [List.foldl_cons]
      by_cases occupied : (before.cell site).isEmpty = false
      · obtain ⟨above, rest, between⟩ := queue.next narrow occupied
        have reached := shifted.stayTo narrow above within between
        exact induction site.y.val site.y.isLt.le rest _
          (shifted_move narrow (unmoved site) occupied reached)
      · rw [Bool.not_eq_false] at occupied
        rw [move_eq_self (shifted.not_able occupied)]
        exact induction row within (queue.tail occupied) progress shifted

/-- Every site of some rows whose cell has a direction of travel has one turn. -/
theorem sites_order_perm (table : ElementTable) (rows : Rows) (progress : Progress size σ) :
    ((progress.order table rows).1.map Mover.site).Perm
      ((size.sites rows).filter fun site =>
        (table.properties (progress.board.cell site).element).direction ≠ 0) := by
  have found (site : Site size) : (Mover.find? table progress.board site).map Mover.site =
      Option.guard (fun site =>
        (table.properties (progress.board.cell site).element).direction ≠ 0) site := by
    simp only [Mover.find?, Option.guard]
    split <;> simp_all
  refine ((progress.order_perm table rows).map Mover.site).trans ?_
  rw [List.map_filterMap, ← List.filterMap_eq_filter]
  simp only [found]
  exact List.Perm.refl _

/-- In a column of equally dense falling cells, all wait for their turns, the lower ones first. -/
theorem queue_order (rigid : progress.board.Rigid table density) :
    progress.board.Queue size.height ((progress.order table size.rows).1.map Mover.site) := by
  have sites := progress.sites_order_perm table size.rows
  have ranked : ∀ mover ∈ (progress.order table size.rows).1,
      (progress.board.cell mover.site).isEmpty = false →
        mover.weight = density.totalRank ∧ mover.advance = mover.site.y.val := by
    intro mover listed occupied
    obtain ⟨site, -, found⟩ :=
      List.mem_filterMap.mp ((progress.order_perm table size.rows).mem_iff.mp listed)
    obtain rfl := Mover.site_of_find? found
    simp only [Mover.find?, rigid.direction occupied, (rigid _ occupied).2] at found
    have fields := Option.some.inj ((if_neg Int.one_ne_zero).symm.trans found)
    have weight : density.totalRank = mover.weight := congrArg Mover.weight fields
    have advance : (mover.site.y.val : Int) * 1 = mover.advance := congrArg Mover.advance fields
    exact ⟨weight.symm, by rw [← advance, Int.mul_one]⟩
  refine ⟨?_, ?_, fun site occupied => ?_⟩
  · rw [sites.nodup_iff]
    exact (size.nodup_sites size.rows).filter _
  · rw [List.pairwise_map]
    refine (progress.order_sorted table size.rows).imp_of_mem
      fun {first second} listed other before occupied there => ?_
    have one := ranked first listed occupied
    have two := ranked second other there
    simp only [Mover.goesBefore, one, two] at before
    simpa using before
  · rw [sites.mem_iff, List.mem_filter]
    simp [Size.mem_sites, Size.rows, rigid.direction occupied]

end Progress

/-- In a single column of cells that fall one step in a phase and are all of one density, a phase of
movement brings down by one whatever stands above the lowest gap, and does nothing else. -/
theorem column_falls (rules : RuleSet) (edge : Edge) (narrow : size.width = 1)
    (progress : Progress size σ) (rigid : progress.board.Rigid rules.elements density) :
    (Phase.move.runWhole rules edge progress).board.column = fallen progress.board.column := by
  let start := progress.enter .move
  have cleared (site : Site size) : start.board.cell site = (progress.board.cell site).clearMoved :=
    Phase.cell_clear .move progress.board site
  have rigidStart : start.board.Rigid rules.elements density := by
    intro site
    rw [cleared]
    exact rigid site
  have unmoved (site : Site size) : (start.board.cell site).moved = false := by
    rw [cleared]
    rfl
  have fell := Progress.shifted_foldl edge narrow unmoved _ size.height le_rfl
    (Progress.queue_order rigidStart)
    { start with source := (start.order rules.elements size.rows).2 } rigidStart.shifted
  rw [List.foldl_map] at fell
  exact fell.fell.trans (congrArg fallen (Board.column_clear .move progress.board))

/-- Two cells in a column, with a gap between them. -/
def stack : Board shaft :=
  (dropped ⟨1⟩).put ⟨⟨0, Nat.one_pos⟩, ⟨2, by decide⟩⟩ (Cell.ofElement ⟨1⟩)

theorem stack_rigid : stack.Rigid pouring.elements Single.one := by
  unfold Board.Rigid
  decide

theorem stack_falls :
    stack.Rigid pouring.elements Single.one ∧ stack.column = [⟨1⟩, ElementId.empty, ⟨1⟩] ∧
      (Phase.move.runWhole pouring .wrap
          (Progress.start stack (Xoshiro.ofSeed 7))).board.column =
        [ElementId.empty, ⟨1⟩, ⟨1⟩] := by
  have column : stack.column = [⟨1⟩, ElementId.empty, ⟨1⟩] := by decide
  refine ⟨stack_rigid, column, ?_⟩
  have falls := column_falls pouring .wrap rfl (Progress.start stack (Xoshiro.ofSeed 7)) stack_rigid
  refine falls.trans ((congrArg fallen column).trans ?_)
  decide

end FallingSand
