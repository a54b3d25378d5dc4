import FallingSand.Grid.Board
import FallingSand.Tick.Step
import Mathlib.Tactic.Common

/-!
# The windows of a pass

A band reaches one row beyond its own on each side.  The bands of a pass are at least one whole band
apart, so these windows follow each other without a common row, and the cells of a board can be cut
into them from front to back.
-/

namespace FallingSand

/-! ## Bands follow each other -/

theorem bandsFrom_bounds {length count extra first : Nat} {rows : Rows}
    (listed : rows ∈ bandsFrom length count extra first) :
    first ≤ rows.first ∧ rows.first + length ≤ rows.stop ∧
      rows.stop ≤ first + length * count + extra := by
  induction count generalizing extra first with
  | zero => cases listed
  | succ count induction =>
      have product : length * (count + 1) = length * count + length := Nat.mul_succ length count
      cases extra with
      | zero =>
          rcases List.mem_cons.mp listed with rfl | later
          · dsimp only
            omega
          · have bounds := induction later
            omega
      | succ extra =>
          rcases List.mem_cons.mp listed with rfl | later
          · dsimp only
            omega
          · have bounds := induction later
            omega

/-- Only the first of consecutive bands starts less than a band's length after the start. -/
theorem bandsFrom_first {length count extra first number : Nat} {band : Rows × Nat}
    (listed : band ∈ (bandsFrom length count extra first).zipIdx number) :
    number ≤ band.2 ∧ (band.2 = number ∨ first + length ≤ band.1.first) := by
  have numbered := List.le_snd_of_mem_zipIdx listed
  refine ⟨numbered, ?_⟩
  cases count with
  | zero => cases listed
  | succ count =>
      cases extra with
      | zero =>
          rcases List.mem_cons.mp listed with rfl | later
          · exact Or.inl rfl
          · have bounds := bandsFrom_bounds (List.fst_mem_of_mem_zipIdx later)
            exact Or.inr bounds.1
      | succ extra =>
          rcases List.mem_cons.mp listed with rfl | later
          · exact Or.inl rfl
          · have bounds := bandsFrom_bounds (List.fst_mem_of_mem_zipIdx later)
            exact Or.inr (by omega)

/-- Of two bands that are not next to each other, the later starts a band's length after the earlier
has ended. -/
theorem bandsFrom_apart (length count extra first number : Nat) :
    ((bandsFrom length count extra first).zipIdx number).Pairwise fun earlier later =>
      earlier.2 < later.2 ∧
        (later.2 = earlier.2 + 1 ∨ earlier.1.stop + length ≤ later.1.first) := by
  induction count generalizing extra first number with
  | zero => exact List.Pairwise.nil
  | succ count induction =>
      cases extra with
      | zero =>
          refine List.Pairwise.cons (fun later listed => ?_) (induction _ _ _)
          have bound := bandsFrom_first listed
          exact ⟨bound.1, bound.2⟩
      | succ extra =>
          refine List.Pairwise.cons (fun later listed => ?_) (induction _ _ _)
          have bound := bandsFrom_first listed
          exact ⟨bound.1, bound.2⟩

theorem bandRows_bounds {height wished : Nat} {rows : Rows}
    (listed : rows ∈ bandRows height wished) : rows.first ≤ rows.stop ∧ rows.stop ≤ height := by
  unfold bandRows at listed
  generalize max 1 (min wished (height / minBandRows)) = count at listed
  obtain ⟨-, long, short⟩ := bandsFrom_bounds listed
  rw [Nat.zero_add, Nat.div_add_mod'] at short
  exact ⟨Nat.le_trans (Nat.le_add_right _ _) long, short⟩

/-- Several bands have at least the least number of rows each. -/
theorem minBandRows_le_of_several (height wished : Nat)
    (several : 1 < max 1 (min wished (height / minBandRows))) :
    minBandRows ≤ height / max 1 (min wished (height / minBandRows)) := by
  have few : max 1 (min wished (height / minBandRows)) ≤ height / minBandRows := by omega
  rw [Nat.le_div_iff_mul_le (by omega), Nat.mul_comm]
  exact (Nat.le_div_iff_mul_le (by decide)).mp few

/-! ## Windows of the bands of a pass -/

namespace Phase

/-- Every band takes its turn in one of the two passes. -/
theorem exists_mem_passes {bands : List Rows} {rows : Rows} (listed : rows ∈ bands) :
    ∃ number, (rows, number) ∈ pass 0 bands ++ pass 1 bands := by
  obtain ⟨number, stands⟩ := List.getElem?_of_mem listed
  have numbered : (rows, number) ∈ bands.zipIdx := List.mk_mem_zipIdx_iff_getElem?.mpr stands
  refine ⟨number, List.mem_append.mpr ?_⟩
  simp only [pass, List.mem_filter, numbered, true_and, beq_iff_eq]
  omega

/-- The rows that the bands of a pass can reach. -/
def windows (parity height wished : Nat) : List Rows :=
  (pass parity (bandRows height wished)).map fun band => band.1.widen height

theorem pass_apart (parity height wished : Nat) :
    (pass parity (bandRows height wished)).Pairwise fun earlier later =>
      (earlier.1.widen height).stop ≤ (later.1.widen height).first := by
  rw [pass, List.pairwise_filter]
  unfold bandRows
  dsimp only
  have room := minBandRows_le_of_several height wished
  generalize several : max 1 (min wished (height / minBandRows)) = count at room
  by_cases single : count = 1
  · subst single
    rw [Nat.mod_one]
    exact List.pairwise_singleton _ _
  · have room := room (by omega)
    rw [minBandRows] at room
    refine (bandsFrom_apart (height / count) count (height % count) 0 0).imp ?_
    rintro earlier later ⟨order, apart⟩ same sameLater
    rw [beq_iff_eq] at same sameLater
    simp only [Rows.widen]
    omega

end Phase

/-! ## Cutting a board -/

/-- Cut cells that begin with a row into the parts that windows cover, row by row and window by
window.  This fails for a window that begins before the row reached, ends before it begins or ends
after the cells do. -/
def Rows.carve? (width : Nat) : (reached : Nat) → List Rows → List Cell → Option (List (List Cell))
  | _, [], _ => some []
  | reached, window :: windows, cells =>
      let skipped := (window.first - reached) * width
      let covered := (window.stop - window.first) * width
      if reached ≤ window.first ∧ window.first ≤ window.stop ∧ skipped + covered ≤ cells.length then
        (carve? width window.stop windows (cells.drop (skipped + covered))).map fun parts =>
          (cells.drop skipped).take covered :: parts
      else none

/-- The cells of some rows. -/
def Rows.slice (width : Nat) (cells : List Cell) (window : Rows) : List Cell :=
  (cells.drop (window.first * width)).take ((window.stop - window.first) * width)

theorem Rows.carve?_eq_some {width height reached : Nat} {windows : List Rows} {cells : List Cell}
    (size : cells.length = height * width) (begins : ∀ window ∈ windows, reached ≤ window.first)
    (ordered : windows.Pairwise fun earlier later => earlier.stop ≤ later.first)
    (inside : ∀ window ∈ windows, window.first ≤ window.stop ∧ window.stop ≤ height) :
    carve? width reached windows (cells.drop (reached * width)) =
      some (windows.map (slice width cells)) := by
  induction windows generalizing reached with
  | nil => rfl
  | cons window windows induction =>
      obtain ⟨begin, -⟩ := List.forall_mem_cons.mp begins
      obtain ⟨follow, ordered⟩ := List.pairwise_cons.mp ordered
      obtain ⟨⟨forward, bottom⟩, inside⟩ := List.forall_mem_cons.mp inside
      have rest := induction follow ordered inside
      have start : reached * width + (window.first - reached) * width = window.first * width := by
        rw [← Nat.add_mul, Nat.add_sub_cancel' begin]
      have stop : window.first * width + (window.stop - window.first) * width =
          window.stop * width := by
        rw [← Nat.add_mul, Nat.add_sub_cancel' forward]
      have fits : window.stop * width ≤ height * width := Nat.mul_le_mul_right width bottom
      have enough : (window.first - reached) * width + (window.stop - window.first) * width ≤
          (cells.drop (reached * width)).length := by
        rw [List.length_drop]
        omega
      rw [carve?, if_pos ⟨begin, forward, enough⟩, List.drop_drop, List.drop_drop, ← Nat.add_assoc,
        start, stop, rest]
      rfl

end FallingSand
