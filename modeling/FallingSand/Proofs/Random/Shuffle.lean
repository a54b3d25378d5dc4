import FallingSand.Random.Source

/-!
# Shuffling

A shuffle only rearranges the items, whatever is drawn.  It exchanges items that are there, so it
does not fail.
-/

namespace FallingSand

variable {σ α : Type} [RandomSource σ]

omit [RandomSource σ] in
theorem exchange_perm (items : Array α) (first second : Nat) :
    (items.swapIfInBounds first second).Perm items := by
  rw [Array.swapIfInBounds_def]
  split
  · split
    · exact Array.swap_perm _ _
    · exact .refl items
  · exact .refl items

theorem shuffleFrom_perm (last : Nat) (items : Array α) (source : σ) :
    (shuffleFrom last items source).1.Perm items := by
  induction last generalizing items source with
  | zero => exact .refl items
  | succ last ih => exact (ih _ _).trans (exchange_perm items _ _)

theorem shuffle_perm (items : Array α) (source : σ) : (shuffle items source).1.Perm items :=
  shuffleFrom_perm _ items source

theorem mem_shuffle {items : Array α} {source : σ} {item : α} :
    item ∈ (shuffle items source).1 ↔ item ∈ items :=
  (shuffle_perm items source).mem_iff

/-- What the items are does not matter to a shuffle. -/
theorem shuffleFrom_map {β : Type} (f : α → β) (last : Nat) (items : Array α) (source : σ) :
    shuffleFrom last (items.map f) source =
      ((shuffleFrom last items source).1.map f, (shuffleFrom last items source).2) := by
  induction last generalizing items source with
  | zero => rfl
  | succ last ih =>
      have swapped (first second : Nat) : (items.map f).swapIfInBounds first second =
          (items.swapIfInBounds first second).map f := by
        rw [Array.swapIfInBounds_def, Array.swapIfInBounds_def]
        simp only [Array.size_map, apply_dite (Array.map f), Array.swap_def, Array.map_set,
          Array.getElem_map]
      rw [shuffleFrom, shuffleFrom]
      simp only [swapped, ih]

theorem shuffle_map {β : Type} (f : α → β) (items : Array α) (source : σ) :
    shuffle (items.map f) source = ((shuffle items source).1.map f, (shuffle items source).2) := by
  rw [shuffle, Array.size_map, shuffleFrom_map, shuffle]

/-! ## Checked shuffles -/

/-- Exchange items as in a shuffle, and fail with the first exchange of an item that is not
there. -/
def shuffleFrom? : (last : Nat) → Array α → σ → Option (Array α × σ)
  | 0, items, source => some (items, source)
  | last + 1, items, source =>
      let (place, source) := RandomSource.index (last + 1) source
      if present : last + 1 < items.size ∧ place.val < items.size then
        shuffleFrom? last (items.swap (last + 1) place present.1 present.2) source
      else none

/-- Put the items into a random order, and fail with the first exchange that does. -/
def shuffle? (items : Array α) (source : σ) : Option (Array α × σ) :=
  shuffleFrom? (items.size - 1) items source

theorem shuffleFrom?_eq_some {last : Nat} {items : Array α} (present : last < items.size)
    (source : σ) : shuffleFrom? last items source = some (shuffleFrom last items source) := by
  induction last generalizing items source with
  | zero => rfl
  | succ last ih =>
      rw [shuffleFrom?, shuffleFrom]
      generalize RandomSource.index (last + 1) source = drawn
      have both : last + 1 < items.size ∧ drawn.1.val < items.size :=
        ⟨present, Nat.lt_of_lt_of_le drawn.1.isLt present⟩
      dsimp only
      rw [dif_pos both, Array.swapIfInBounds_def, dif_pos both.1, dif_pos both.2]
      exact ih (by rw [Array.size_swap]; omega) drawn.2

/-- Whatever is drawn, a shuffle does not fail. -/
theorem shuffle?_eq_some (items : Array α) (source : σ) :
    shuffle? items source = some (shuffle items source) := by
  rcases Nat.eq_zero_or_pos items.size with empty | positive
  · rw [shuffle?, shuffle, empty]
    rfl
  · exact shuffleFrom?_eq_some (Nat.sub_lt positive Nat.one_pos) source

end FallingSand
