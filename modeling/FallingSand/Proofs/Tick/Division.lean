import FallingSand.Proofs.Tick.Windows

/-!
# How rows are divided

The bands of a grid lie one below the other from the first row to the last, so every row belongs to
exactly one.  The rows are spread evenly: what is left over after a division into equal bands goes
to the first of them, one row to each.  Short bands are avoided by having fewer of them, which
leaves several bands only where each has the least number of rows.
-/

namespace FallingSand

/-! ## Bands without gaps -/

/-- Bands that follow each other from a first row to one before which the last of them ends, each
with a row. -/
inductive Rows.Spans : (first : Nat) → List Rows → (stop : Nat) → Prop where
  /-- Without bands nothing is spanned. -/
  | none (row : Nat) : Spans row [] row
  /-- The other bands go on where the first has stopped. -/
  | follow {first middle stop : Nat} {rest : List Rows} (begins : first < middle)
      (goesOn : Spans middle rest stop) : Spans first (⟨first, middle⟩ :: rest) stop

namespace Rows.Spans

variable {first stop : Nat} {bands : List Rows}

theorem le (spans : Spans first bands stop) : first ≤ stop := by
  induction spans with
  | none row => exact Nat.le_refl row
  | follow begins _ induction => exact Nat.le_trans (Nat.le_of_lt begins) induction

theorem first_lt_stop (spans : Spans first bands stop) :
    ∀ rows ∈ bands, rows.first < rows.stop := by
  induction spans with
  | none row => exact fun _ listed => absurd listed List.not_mem_nil
  | follow begins _ induction => exact List.forall_mem_cons.mpr ⟨begins, induction⟩

/-- A row belongs to one band if it is among the rows spanned, and otherwise to none. -/
theorem countP_contains (spans : Spans first bands stop) (row : Nat) :
    bands.countP (·.contains row) = if first ≤ row ∧ row < stop then 1 else 0 := by
  induction spans with
  | none => rw [List.countP_nil, if_neg (by omega)]
  | @follow first middle stop rest begins goesOn induction =>
      have later := goesOn.le
      rw [List.countP_cons, induction]
      simp only [Rows.contains_iff]
      split <;> split <;> split <;> omega

end Rows.Spans

/-! ## Consecutive bands of two lengths -/

section Consecutive

variable {length count extra : Nat}

theorem bandsFrom_spans (positive : 0 < length) (few : extra ≤ count) (first : Nat) :
    Rows.Spans first (bandsFrom length count extra first) (first + (length * count + extra)) := by
  induction count generalizing extra first with
  | zero =>
      obtain rfl := Nat.le_zero.mp few
      exact .none first
  | succ count induction =>
      have product : length * (count + 1) = length * count + length := Nat.mul_succ length count
      cases extra with
      | zero =>
          have rest := induction (Nat.zero_le count) (first + length)
          rw [show first + (length * (count + 1) + 0) =
            first + length + (length * count + 0) by omega]
          exact .follow (by omega) rest
      | succ extra =>
          have rest := induction (Nat.le_of_succ_le_succ few) (first + length + 1)
          rw [show first + (length * (count + 1) + (extra + 1)) =
            first + length + 1 + (length * count + extra) by omega]
          exact .follow (by omega) rest

/-- The longer bands come first, and there are as many of them as rows left over. -/
theorem map_count_bandsFrom (few : extra ≤ count) (first : Nat) :
    (bandsFrom length count extra first).map Rows.count =
      List.replicate extra (length + 1) ++ List.replicate (count - extra) length := by
  induction count generalizing extra first with
  | zero =>
      obtain rfl := Nat.le_zero.mp few
      rfl
  | succ count induction =>
      cases extra with
      | zero =>
          rw [bandsFrom, List.map_cons, induction (Nat.zero_le count), Nat.sub_zero, Nat.sub_zero,
            List.replicate_succ, Rows.count, Nat.add_sub_cancel_left]
          rfl
      | succ extra =>
          rw [bandsFrom, List.map_cons, induction (Nat.le_of_succ_le_succ few),
            Nat.succ_sub_succ, List.replicate_succ, Rows.count, Nat.add_assoc,
            Nat.add_sub_cancel_left]
          rfl

theorem length_bandsFrom (few : extra ≤ count) (first : Nat) :
    (bandsFrom length count extra first).length = count := by
  rw [← List.length_map Rows.count, map_count_bandsFrom few, List.length_append,
    List.length_replicate, List.length_replicate]
  omega

/-- No band is longer than one before it, and none shorter by more than a row. -/
theorem count_bandsFrom_pairwise (few : extra ≤ count) (first : Nat) :
    (bandsFrom length count extra first).Pairwise fun earlier later =>
      later.count ≤ earlier.count ∧ earlier.count ≤ later.count + 1 := by
  rw [← List.pairwise_map (f := Rows.count)
    (R := fun earlier later => later ≤ earlier ∧ earlier ≤ later + 1), map_count_bandsFrom few]
  refine List.pairwise_append.mpr ⟨?_, ?_, fun earlier long later short => ?_⟩
  · exact List.pairwise_replicate.mpr (Or.inr ⟨Nat.le_refl _, Nat.le_succ _⟩)
  · exact List.pairwise_replicate.mpr (Or.inr ⟨Nat.le_refl _, Nat.le_succ _⟩)
  · rw [List.eq_of_mem_replicate long, List.eq_of_mem_replicate short]
    exact ⟨Nat.le_succ _, Nat.le_refl _⟩

end Consecutive

/-! ## The bands of a grid -/

theorem length_bandRows (height wished : Nat) :
    (bandRows height wished).length = max 1 (min wished (height / minBandRows)) := by
  have positive : 0 < max 1 (min wished (height / minBandRows)) := by omega
  exact length_bandsFrom (Nat.le_of_lt (Nat.mod_lt height positive)) 0

theorem bandRows_spans {height : Nat} (room : 1 ≤ height) (wished : Nat) :
    Rows.Spans 0 (bandRows height wished) height := by
  unfold bandRows
  have most := Nat.div_le_self height minBandRows
  generalize several : max 1 (min wished (height / minBandRows)) = count
  have positive : 0 < count := by omega
  have spans := bandsFrom_spans (Nat.div_pos (by omega : count ≤ height) positive)
    (Nat.le_of_lt (Nat.mod_lt height positive)) 0
  rwa [Nat.zero_add, Nat.div_add_mod'] at spans

/-- Every row of a grid belongs to one band. -/
theorem countP_contains_bandRows {height row : Nat} (wished : Nat) (below : row < height) :
    (bandRows height wished).countP (·.contains row) = 1 := by
  rw [(bandRows_spans (by omega) wished).countP_contains, if_pos ⟨Nat.zero_le row, below⟩]

theorem bandRows_covers {height y : Nat} (wished : Nat) (below : y < height) :
    ∃ rows ∈ bandRows height wished, rows.contains y = true := by
  have once := countP_contains_bandRows wished below
  exact List.countP_pos_iff.mp (by omega)

theorem count_bandRows_pairwise (height wished : Nat) :
    (bandRows height wished).Pairwise fun earlier later =>
      later.count ≤ earlier.count ∧ earlier.count ≤ later.count + 1 := by
  have positive : 0 < max 1 (min wished (height / minBandRows)) := by omega
  exact count_bandsFrom_pairwise (Nat.le_of_lt (Nat.mod_lt height positive)) 0

theorem minBandRows_le_count {height wished : Nat} {rows : Rows}
    (several : 1 < (bandRows height wished).length) (listed : rows ∈ bandRows height wished) :
    minBandRows ≤ rows.count := by
  rw [length_bandRows] at several
  have room := minBandRows_le_of_several height wished several
  unfold bandRows at listed
  obtain ⟨-, long, -⟩ := bandsFrom_bounds listed
  rw [Rows.count]
  omega

/-- The bands of a grid are not empty, follow each other from its first row to its last, and so
hold every row once.  They differ by no more than a row in length, the longer ones come first, there
are as many as wished for within what the height allows, and of several none is too short. -/
theorem bandRows_divide {height : Nat} (room : 1 ≤ height) (wished : Nat) :
    (∀ rows ∈ bandRows height wished, rows.first < rows.stop) ∧
    Rows.Spans 0 (bandRows height wished) height ∧
    (∀ row < height, (bandRows height wished).countP (·.contains row) = 1) ∧
    ((bandRows height wished).Pairwise fun earlier later =>
      later.count ≤ earlier.count ∧ earlier.count ≤ later.count + 1) ∧
    (bandRows height wished).length = max 1 (min wished (height / 3)) ∧
    (1 < (bandRows height wished).length →
      ∀ rows ∈ bandRows height wished, minBandRows ≤ rows.count) := by
  have spans := bandRows_spans room wished
  exact ⟨spans.first_lt_stop, spans, fun _ below => countP_contains_bandRows wished below,
    count_bandRows_pairwise height wished, length_bandRows height wished,
    fun several _ listed => minBandRows_le_count several listed⟩

theorem seven_rows_divide : 1 ≤ 7 ∧ bandRows 7 8 = [⟨0, 4⟩, ⟨4, 7⟩] ∧
    (∀ rows ∈ bandRows 7 8, rows.first < rows.stop) ∧
    Rows.Spans 0 (bandRows 7 8) 7 ∧
    (∀ row < 7, (bandRows 7 8).countP (·.contains row) = 1) ∧
    ((bandRows 7 8).Pairwise fun earlier later =>
      later.count ≤ earlier.count ∧ earlier.count ≤ later.count + 1) ∧
    (bandRows 7 8).length = max 1 (min 8 (7 / 3)) ∧
    (1 < (bandRows 7 8).length → ∀ rows ∈ bandRows 7 8, minBandRows ≤ rows.count) :=
  ⟨by decide, rfl, bandRows_divide (by decide) 8⟩

end FallingSand
