import FallingSand.Proofs.Tick.Frame
import FallingSand.Proofs.Tick.Windows
import FallingSand.Mod.Catalog

/-!
# Bands of a pass side by side

The bands of a pass have windows without a common row, and what a band does depends on its window
alone.  So it does not matter in which order they take their turns: every band leaves in its window
what it makes of the board as the pass finds it, and the tallies add up.
-/

namespace FallingSand
namespace Phase

variable {size : Size} {phase : Phase} {rules : RuleSet} {edge : Edge} {seed tick : UInt64}
  {board other : Board size} {band : Rows × Nat} {bands order : List (Rows × Nat)}

/-! ## One band -/

/-- The rows that a band can reach. -/
def reach (height : Nat) (band : Rows × Nat) : Rows :=
  band.1.widen height

/-- What a band makes of a board by itself, with a tally of its own. -/
def work (phase : Phase) (rules : RuleSet) (edge : Edge) (seed tick : UInt64)
    (board : Board size) (band : Rows × Nat) : Board size × Tally :=
  phase.runBand rules edge seed tick (board, Tally.zero) band

theorem reach_contains (y : Fin size.height) (own : band.1.contains y = true) :
    (reach size.height band).contains y = true := by
  have below := y.isLt
  simp only [reach, Rows.widen, Rows.contains_iff] at own ⊢
  omega

theorem runBand_amid (board beyond : Board size) (tally earlier : Tally) (band : Rows × Nat) :
    phase.runBand rules edge seed tick
        (board.splice beyond (reach size.height band), earlier.merge tally) band =
      ((phase.runBand rules edge seed tick (board, tally) band).1.splice beyond
          (reach size.height band),
        earlier.merge (phase.runBand rules edge seed tick (board, tally) band).2) := by
  have own : ∀ y : Fin size.height, band.1.contains y = true →
    (reach size.height band).contains y = true := reach_contains
  have apart := phase.run_amid rules edge own
    { board, tally, source := Xoshiro.ofSeed (bandSeed seed tick phase (UInt64.ofNat band.2)) }
    beyond earlier
  unfold Progress.amid at apart
  unfold runBand
  dsimp only at apart ⊢
  rw [← reach, apart]

theorem runBand_eq_work (board : Board size) (tally : Tally) (band : Rows × Nat) :
    phase.runBand rules edge seed tick (board, tally) band =
      ((phase.work rules edge seed tick board band).1.splice board (reach size.height band),
        tally.merge (phase.work rules edge seed tick board band).2) := by
  have apart : phase.runBand rules edge seed tick
      (board.splice board (reach size.height band), tally.merge Tally.zero) band = _ :=
    runBand_amid board board Tally.zero tally band
  rw [Board.splice_self, Tally.merge_zero] at apart
  exact apart

theorem cell_runBand_of_not_contains {site : Site size} (tally : Tally)
    (outside : (reach size.height band).contains site.y = false) :
    (phase.runBand rules edge seed tick (board, tally) band).1.cell site = board.cell site := by
  rw [runBand_eq_work, Board.cell_splice, outside, if_neg Bool.false_ne_true]

/-- A band looks at its window only. -/
theorem work_congr
    (same : ∀ site, (reach size.height band).contains site.y = true →
      other.cell site = board.cell site) :
    phase.work rules edge seed tick other band =
      ((phase.work rules edge seed tick board band).1.splice other (reach size.height band),
        (phase.work rules edge seed tick board band).2) := by
  have window : other = board.splice other (reach size.height band) := by
    apply Board.ext_cell
    intro site
    rw [Board.cell_splice]
    split
    · rename_i inside
      exact same site inside
    · rfl
  have apart : phase.runBand rules edge seed tick
      (board.splice other (reach size.height band), Tally.zero.merge Tally.zero) band = _ :=
    runBand_amid board other Tally.zero Tally.zero band
  rw [← window, Tally.merge_zero, Tally.zero_merge] at apart
  exact apart

/-! ## Bands without a common row -/

/-- No row can be reached by both bands. -/
def Apart (height : Nat) (first second : Rows × Nat) : Prop :=
  ∀ y, (reach height first).contains y = true → (reach height second).contains y = false

theorem Apart.symm {height : Nat} {first second : Rows × Nat}
    (apart : Apart height first second) : Apart height second first := by
  intro y inside
  by_contra both
  rw [Bool.not_eq_false] at both
  rw [apart y both] at inside
  cases inside

/-- Every band has left in its window what it makes of the board by itself, the other cells are as
they were, and the tallies are added up. -/
structure SideBySide (phase : Phase) (rules : RuleSet) (edge : Edge) (seed tick : UInt64)
    (bands : List (Rows × Nat)) (before after : Board size × Tally) : Prop where
  /-- A window holds what its band makes of it. -/
  inside : ∀ band ∈ bands, ∀ site, (reach size.height band).contains site.y = true →
    after.1.cell site = (phase.work rules edge seed tick before.1 band).1.cell site
  /-- Cells that no band reaches are as they were. -/
  beyond : ∀ site, (∀ band ∈ bands, (reach size.height band).contains site.y = false) →
    after.1.cell site = before.1.cell site
  /-- Every band adds its tally. -/
  tally : after.2 =
    (bands.map fun band => (phase.work rules edge seed tick before.1 band).2).foldl
      Tally.merge before.2

theorem sideBySide_foldl (before : Board size × Tally)
    (apart : bands.Pairwise (Apart size.height)) :
    SideBySide phase rules edge seed tick bands before
      (bands.foldl (phase.runBand rules edge seed tick) before) := by
  induction bands using List.reverseRecOn with
  | nil => exact ⟨by simp, fun _ _ => rfl, rfl⟩
  | append_singleton bands last induction =>
      obtain ⟨earlier, -, lastApart⟩ := List.pairwise_append.mp apart
      have ahead := induction earlier
      have away : ∀ band ∈ bands, Apart size.height band last := fun band listed =>
        lastApart band listed last (List.mem_singleton_self last)
      rw [List.foldl_concat]
      generalize bands.foldl (phase.runBand rules edge seed tick) before = between at ahead ⊢
      -- the last band finds its window as it was before the pass
      have found : ∀ site, (reach size.height last).contains site.y = true →
          between.1.cell site = before.1.cell site := fun site inside =>
        ahead.beyond site fun band listed => (away band listed).symm _ inside
      have last_work : phase.work rules edge seed tick between.1 last = _ := work_congr found
      constructor
      · intro band listed site inside
        rw [runBand_eq_work, Board.cell_splice, last_work]
        rcases List.mem_append.mp listed with previous | isLast
        · rw [away band previous _ inside, if_neg Bool.false_ne_true]
          exact ahead.inside band previous site inside
        · obtain rfl := List.mem_singleton.mp isLast
          rw [if_pos inside, Board.cell_splice_of_contains inside]
      · intro site outside
        have beyond := outside last (List.mem_append_right _ (List.mem_singleton_self last))
        rw [cell_runBand_of_not_contains _ beyond]
        exact ahead.beyond site fun band listed => outside band (List.mem_append_left _ listed)
      · rw [runBand_eq_work, last_work, List.map_append, List.foldl_append, ← ahead.tally]
        rfl

theorem SideBySide.unique {before after afterOther : Board size × Tally}
    (first : SideBySide phase rules edge seed tick bands before after)
    (second : SideBySide phase rules edge seed tick order before afterOther)
    (same : order.Perm bands) : afterOther = after := by
  have boards : afterOther.1 = after.1 := by
    apply Board.ext_cell
    intro site
    by_cases reached : ∃ band ∈ bands, (reach size.height band).contains site.y = true
    · obtain ⟨band, listed, inside⟩ := reached
      rw [first.inside band listed site inside,
        second.inside band (same.mem_iff.mpr listed) site inside]
    · have outside : ∀ band ∈ bands, (reach size.height band).contains site.y = false := by
        intro band listed
        rw [← Bool.not_eq_true]
        exact fun inside => reached ⟨band, listed, inside⟩
      rw [first.beyond site outside,
        second.beyond site fun band listed => outside band (same.mem_iff.mp listed)]
  have tallies : afterOther.2 = after.2 := by
    rw [first.tally, second.tally]
    refine (same.map _).foldl_eq' (fun one _ two _ sum => ?_) _
    rw [Tally.merge_assoc, Tally.merge_comm one two, ← Tally.merge_assoc]
  exact Prod.ext boards tallies

theorem pass_pairwise_apart (parity height wished : Nat) :
    (pass parity (bandRows height wished)).Pairwise (Apart height) := by
  refine (pass_apart parity height wished).imp fun {earlier later} follows y inside => ?_
  rw [← Bool.not_eq_true, Rows.contains_iff]
  rw [Rows.contains_iff] at inside
  unfold reach at inside ⊢
  omega

theorem window_bounds {height parity wished : Nat} {window : Rows} (exists_row : 0 < height)
    (listed : window ∈ windows parity height wished) :
    window.first < window.stop ∧ window.stop ≤ height := by
  obtain ⟨band, passing, rfl⟩ := List.mem_map.mp listed
  have member := List.fst_mem_of_mem_zipIdx (List.mem_of_mem_filter passing)
  have bounds := bandRows_bounds member
  simp only [Rows.widen]
  omega

/-- The windows of a pass follow each other inside the grid, without a common row, and the cells of
a board can be cut into them.  In whatever order the bands of the pass take their turns, the result
is that of all of them side by side. -/
theorem pass_any_order (size : Size) (parity wished : Nat) :
    let bands := pass parity (bandRows size.height wished)
    (windows parity size.height wished).Pairwise
        (fun earlier later => earlier.stop ≤ later.first) ∧
    (∀ window ∈ windows parity size.height wished,
      window.first < window.stop ∧ window.stop ≤ size.height) ∧
    (∀ board : Board size,
      Rows.carve? size.width 0 (windows parity size.height wished) board.cells.toList =
        some ((windows parity size.height wished).map
          (Rows.slice size.width board.cells.toList))) ∧
    ∀ (phase : Phase) (rules : RuleSet) (edge : Edge) (seed tick : UInt64)
      (before : Board size × Tally) (order : List (Rows × Nat)), order.Perm bands →
        order.foldl (phase.runBand rules edge seed tick) before =
          bands.foldl (phase.runBand rules edge seed tick) before ∧
        SideBySide phase rules edge seed tick bands before
          (order.foldl (phase.runBand rules edge seed tick) before) := by
  intro bands
  have ordered : (windows parity size.height wished).Pairwise
      fun earlier later => earlier.stop ≤ later.first :=
    List.pairwise_map.mpr (pass_apart parity size.height wished)
  have inside : ∀ window ∈ windows parity size.height wished,
      window.first < window.stop ∧ window.stop ≤ size.height :=
    fun window listed => window_bounds size.height_pos listed
  refine ⟨ordered, inside, fun board => ?_, ?_⟩
  · have cells : board.cells.toList.length = size.height * size.width := by
      rw [Vector.length_toList, Size.area, Nat.mul_comm]
    have carved := Rows.carve?_eq_some cells (fun _ _ => Nat.zero_le _) ordered
      fun window listed => ⟨(inside window listed).1.le, (inside window listed).2⟩
    rw [Nat.zero_mul, List.drop_zero] at carved
    exact carved
  · intro phase rules edge seed tick before order same
    have apart : bands.Pairwise (Apart size.height) :=
      pass_pairwise_apart parity size.height wished
    have apartInOrder : order.Pairwise (Apart size.height) :=
      same.symm.pairwise apart Apart.symm
    have one : SideBySide phase rules edge seed tick bands before _ := sideBySide_foldl before apart
    have equal := one.unique (sideBySide_foldl before apartInOrder) same
    refine ⟨equal, ?_⟩
    rw [equal]
    exact one

/-- Embers that go out. -/
def goingOut : RuleSet :=
  RuleSet.ofRules none (Catalog.initial.resolveAll fun _ => []) Registry.empty []
    [{ probability := Single.one, element := ⟨1⟩, target := ElementId.empty, source := ⟨0, 0⟩ }]

/-- A column of nine embers. -/
def embers : Board ⟨1, 9, by decide, by decide, by decide⟩ :=
  (Board.empty _).fill (Size.sites _ ⟨0, 9⟩) (Cell.ofElement ⟨1⟩)

theorem embers_any_order :
    [(⟨6, 9⟩, 2), (⟨0, 3⟩, 0)].Perm (pass 0 (bandRows 9 3)) ∧
      [(⟨6, 9⟩, 2), (⟨0, 3⟩, 0)].foldl (change.runBand goingOut .wall 7 0) (embers, Tally.zero) =
        (pass 0 (bandRows 9 3)).foldl (change.runBand goingOut .wall 7 0)
          (embers, Tally.zero) := by
  have swapped : [((⟨6, 9⟩ : Rows), 2), (⟨0, 3⟩, 0)].Perm (pass 0 (bandRows 9 3)) := by decide
  have every := (pass_any_order ⟨1, 9, by decide, by decide, by decide⟩ 0 3).2.2.2
  exact ⟨swapped, (every change goingOut .wall 7 0 (embers, Tally.zero) _ swapped).1⟩

end Phase
end FallingSand
