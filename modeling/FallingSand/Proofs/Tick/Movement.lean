import FallingSand.Proofs.Grid.Sites
import FallingSand.Proofs.Tick.Phases
import FallingSand.Proofs.Turn.Motion
import Mathlib.Data.Finset.Image
import Mathlib.Logic.Relation

/-!
# What moves where

A phase of movement only rearranges cells.  Inert elements stay where they are, and every other cell
stays among the sites that a king could reach from it without stepping on an inert element.
-/

namespace FallingSand

/-- Neither `Empty` nor mobile. -/
def ElementTable.isInert (table : ElementTable) (element : ElementId) : Bool :=
  !element.isEmpty && !(table.properties element).isMobile

variable {size : Size} {table : ElementTable} {edge : Edge} {before after : Board size}

namespace Board

/-- The element at the site is not inert. -/
def Free (board : Board size) (table : ElementTable) (site : Site size) : Prop :=
  table.isInert (board.cell site).element = false

/-- A king gets from one site to the other without stepping on an inert element. -/
def Connected (board : Board size) (table : ElementTable) (edge : Edge) :
    Site size → Site size → Prop :=
  Relation.ReflTransGen fun first second =>
    board.Free table first ∧ board.Free table second ∧ KingAdjacent edge first second

theorem Connected.free {first second : Site size}
    (connected : before.Connected table edge first second) (free : before.Free table first) :
    before.Free table second := by
  induction connected with
  | refl => exact free
  | tail _ step _ => exact step.2.1

theorem Connected.eq_of_not_free {first second : Site size}
    (connected : before.Connected table edge first second) (inert : ¬before.Free table first) :
    second = first := by
  rcases Relation.ReflTransGen.cases_head connected with same | ⟨_, step, _⟩
  · exact same.symm
  · exact absurd step.1 inert

end Board

/-! ## Rearranging -/

/-- Every cell of a board comes from a site of another one that is connected to its own. -/
def Rearranged (table : ElementTable) (edge : Edge) (before after : Board size) : Prop :=
  ∃ origin : Equiv.Perm (Site size),
    (∀ site, (after.cell site).clearMoved = (before.cell (origin site)).clearMoved) ∧
      ∀ site, before.Connected table edge site (origin site)

namespace Rearranged

theorem of_clearMoved
    (same : ∀ site, (after.cell site).clearMoved = (before.cell site).clearMoved) :
    Rearranged table edge before after :=
  ⟨Equiv.refl _, same, fun _ => .refl⟩

theorem free_iff (rearranged : Rearranged table edge before after) {site : Site size} :
    after.Free table site ↔ before.Free table site := by
  obtain ⟨origin, cells, connected⟩ := rearranged
  have element : (after.cell site).element = (before.cell (origin site)).element := by
    have same := congrArg Cell.element (cells site)
    exact same
  have origins : after.Free table site ↔ before.Free table (origin site) := by
    rw [Board.Free, Board.Free, element]
  rw [origins]
  by_cases free : before.Free table site
  · exact iff_of_true ((connected site).free free) free
  · rw [(connected site).eq_of_not_free free]

/-- Exchanging the cells of two sites that a king can step between keeps the cells where they can
be, unless one of them is inert. -/
theorem exchange (rearranged : Rearranged table edge before after) {first second : Site size}
    (adjacent : KingAdjacent edge first second) (firstFree : after.Free table first)
    (secondFree : after.Free table second) :
    Rearranged table edge before (after.exchange first second) := by
  -- connections are those of the first board, on which the same sites are free
  rw [rearranged.free_iff] at firstFree secondFree
  obtain ⟨origin, cells, connected⟩ := rearranged
  refine ⟨(Equiv.swap first second).trans origin, fun site => ?_, fun site => ?_⟩
  · rw [Equiv.trans_apply, ← cells, Board.cell_exchange]
    by_cases atFirst : site = first
    · rw [atFirst, if_neg adjacent.1, if_pos rfl, Equiv.swap_apply_left]
    · by_cases atSecond : site = second
      · rw [atSecond, if_pos rfl, Equiv.swap_apply_right]
      · rw [if_neg atSecond, if_neg atFirst, Equiv.swap_apply_of_ne_of_ne atFirst atSecond]
  · rw [Equiv.trans_apply, Equiv.swap_apply_def]
    split
    · rename_i here
      subst here
      exact .head ⟨firstFree, secondFree, adjacent⟩ (connected second)
    · split
      · rename_i here
        subst here
        exact .head ⟨secondFree, firstFree, adjacent.symm⟩ (connected first)
      · exact connected site

theorem put_clearMoved (rearranged : Rearranged table edge before after) {site : Site size}
    {cell : Cell} (same : cell.clearMoved = (after.cell site).clearMoved) :
    Rearranged table edge before (after.put site cell) := by
  obtain ⟨origin, cells, connected⟩ := rearranged
  refine ⟨origin, fun other => ?_, connected⟩
  rw [← cells, Board.cell_put]
  split
  · rename_i here
    rw [same, here]
  · rfl

end Rearranged

/-! ## Moving -/

theorem not_isInert_of_canDisplace {mover : Properties} {target : Cell}
    (displaces : table.canDisplace mover target = true) : table.isInert target.element = false := by
  rw [ElementTable.canDisplace, Bool.or_eq_true] at displaces
  rcases displaces with empty | weighs
  · rw [Cell.isEmpty] at empty
    simp [ElementTable.isInert, empty]
  · simp only [Bool.and_eq_true] at weighs
    simp [ElementTable.isInert, weighs.1.2]

namespace Progress

variable {σ : Type} [RandomSource σ]

theorem rearranged_move (window : Window) {site : Site size} {progress : Progress size σ}
    (rearranged : Rearranged table window.edge before progress.board) :
    Rearranged table window.edge before (progress.move table window site).2.board := by
  refine move_induction (P := fun site board =>
    Rearranged table window.edge before board ∧ board.Free table site) rfl ?_ ?_ ?_ rearranged
  · rintro site next board enters ⟨rearranged, free⟩
    have nextFree : board.Free table next := not_isInert_of_canDisplace enters.displaces
    refine ⟨rearranged.exchange enters.adjacent free nextFree, ?_⟩
    rw [Board.Free, Board.cell_exchange_second]
    exact free
  · intro _ travels
    refine ⟨rearranged, ?_⟩
    simp [Board.Free, ElementTable.isInert, Properties.isMobile_of_direction travels]
  · rintro final board ⟨rearranged, -⟩
    exact ⟨rearranged, rearranged.put_clearMoved rfl⟩

end Progress

theorem move_keeps_rearranged (rules : RuleSet) (edge : Edge) (before : Board size) :
    Phase.move.Keeps rules edge fun board _ => Rearranged rules.elements edge before board :=
  Phase.move_keeps fun reach _ _ rearranged => Progress.rearranged_move ⟨edge, reach⟩ rearranged

/-! ## What is kept -/

open Classical in
/-- The sites connected to a site. -/
noncomputable def Board.component (board : Board size) (table : ElementTable) (edge : Edge)
    (site : Site size) : Finset (Site size) :=
  Finset.univ.filter (board.Connected table edge site)

/-- Sites out of which no connection leads keep their elements, in some order. -/
theorem Rearranged.elementsIn_eq (rearranged : Rearranged table edge before after)
    {sites : Finset (Site size)}
    (closed : ∀ site ∈ sites, ∀ other, before.Connected table edge site other → other ∈ sites) :
    after.elementsIn sites = before.elementsIn sites := by
  obtain ⟨origin, cells, connected⟩ := rearranged
  -- a permutation that leads a finite set into itself leads it onto itself
  have kept : sites.map origin.toEmbedding = sites := by
    refine Finset.eq_of_subset_of_card_le ?_ (by rw [Finset.card_map])
    intro other image
    obtain ⟨site, listed, rfl⟩ := Finset.mem_map.mp image
    exact closed site listed _ (connected site)
  calc
    after.elementsIn sites = sites.val.map fun site => (before.cell (origin site)).element := by
      refine Multiset.map_congr rfl fun site _ => ?_
      have same := congrArg Cell.element (cells site)
      exact same
    _ = before.elementsIn (sites.map origin.toEmbedding) := by
      rw [Board.elementsIn, Finset.map_val, Multiset.map_map]
      rfl
    _ = before.elementsIn sites := by rw [kept]

/-- What a phase of movement keeps between two boards. -/
structure Conserved (table : ElementTable) (edge : Edge) (before after : Board size) : Prop where
  /-- Cells are rearranged and, but for the mark of movement, not changed. -/
  rearranged : ∃ origin : Equiv.Perm (Site size),
    ∀ site, (after.cell site).clearMoved = (before.cell (origin site)).clearMoved
  /-- Inert elements stay. -/
  inert : ∀ site, table.isInert (before.cell site).element = true →
    (after.cell site).element = (before.cell site).element
  /-- No inert element turns up anywhere else. -/
  new : ∀ site, table.isInert (after.cell site).element = true →
    table.isInert (before.cell site).element = true
  /-- The sites connected to one without an inert element keep their elements, in some order. -/
  components : ∀ site, before.Free table site →
    after.elementsIn (before.component table edge site) =
      before.elementsIn (before.component table edge site)
  /-- There are as many of each element. -/
  counts : ∀ element, after.count element = before.count element
  /-- Nothing passes a complete row of inert elements. -/
  barriers : ∀ row, (∀ column, table.isInert (before.cell ⟨column, row⟩).element = true) →
    after.elementsIn (Finset.univ.filter fun site => site.y < row) =
      before.elementsIn (Finset.univ.filter fun site => site.y < row) ∧
    after.elementsIn (Finset.univ.filter fun site => row < site.y) =
      before.elementsIn (Finset.univ.filter fun site => row < site.y)

/-- A king stays on its side of a complete row of inert elements. -/
theorem Board.Connected.same_side {row : Fin size.height}
    (barrier : ∀ column, table.isInert (before.cell ⟨column, row⟩).element = true)
    {site other : Site size} (connected : before.Connected table edge site other) :
    (site.y < row → other.y < row) ∧ (row < site.y → row < other.y) := by
  induction connected with
  | refl => exact ⟨id, id⟩
  | @tail between next _ step ih =>
      obtain ⟨-, free, -, -, rows⟩ := step
      have different : next.y ≠ row := by
        rintro rfl
        exact absurd free (by simp [Board.Free, barrier next.x])
      simp only [Fin.lt_def, Fin.ext_iff, ne_eq, RowsTouch] at ih different rows ⊢
      omega

theorem Rearranged.conserved (rearranged : Rearranged table edge before after) :
    Conserved table edge before after where
  rearranged := by
    obtain ⟨origin, cells, -⟩ := rearranged
    exact ⟨origin, cells⟩
  inert site inert := by
    obtain ⟨origin, cells, connected⟩ := rearranged
    have same := congrArg Cell.element (cells site)
    rw [(connected site).eq_of_not_free (by simp [Board.Free, inert])] at same
    exact same
  new site inert := by
    by_contra free
    rw [Bool.not_eq_true] at free
    have stays : after.Free table site := rearranged.free_iff.mpr free
    rw [stays] at inert
    cases inert
  components site _ := rearranged.elementsIn_eq fun first listed second connected => by
    simp only [Board.component, Finset.mem_filter, Finset.mem_univ, true_and] at listed ⊢
    exact listed.trans connected
  counts element := by
    rw [Board.count_eq, Board.count_eq, rearranged.elementsIn_eq fun _ _ _ _ => Finset.mem_univ _]
  barriers row barrier := by
    constructor
    · refine rearranged.elementsIn_eq fun first listed second connected => ?_
      simp only [Finset.mem_filter, Finset.mem_univ, true_and] at listed ⊢
      exact (connected.same_side barrier).1 listed
    · refine rearranged.elementsIn_eq fun first listed second connected => ?_
      simp only [Finset.mem_filter, Finset.mem_univ, true_and] at listed ⊢
      exact (connected.same_side barrier).2 listed

/-- A phase of movement, over some rows of a window, over the whole board or in bands, rearranges
cells within the components of the sites without inert elements. -/
theorem move_conserves (rules : RuleSet) (edge : Edge) :
    (∀ (σ : Type) [RandomSource σ] (reach rows : Rows) (progress : Progress size σ),
      Conserved rules.elements edge progress.board
        (Phase.move.run rules ⟨edge, reach⟩ rows progress).board) ∧
    (∀ (σ : Type) [RandomSource σ] (progress : Progress size σ),
      Conserved rules.elements edge progress.board
        (Phase.move.runWhole rules edge progress).board) ∧
    ∀ (bands : List Rows) (seed tick : UInt64) (state : Board size × Tally),
      Conserved rules.elements edge state.1
        (Phase.move.runBanded rules edge bands seed tick state).1 := by
  have cleared (board : Board size) :
      Rearranged rules.elements edge board (Phase.move.clear board) :=
    .of_clearMoved fun site => by
      rw [Phase.cell_clear]
      rfl
  refine ⟨fun σ _ reach rows progress => ?_, fun σ _ progress => ?_,
    fun bands seed tick state => ?_⟩
  · exact (move_keeps_rearranged rules edge _ σ reach rows progress
      (.of_clearMoved fun _ => rfl)).conserved
  · exact ((move_keeps_rearranged rules edge _).runWhole progress (cleared _)).conserved
  · exact ((move_keeps_rearranged rules edge _).runBanded bands seed tick state
      (cleared _)).conserved

end FallingSand
