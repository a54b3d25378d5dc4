import FallingSand.Number.Single

/-!
# Sources of randomness

A random source is a state from which a fair coin, a single-precision number and an index below a
bound can be drawn.  Everything random in the simulation is a function of such a state, so a run is
reproducible from it.  An index is drawn together with the fact that it is in range.
-/

namespace FallingSand

/-- States from which random values are drawn; each draw yields the state for the next one. -/
class RandomSource (σ : Type) where
  /-- Draw a fair coin. -/
  coin : σ → Bool × σ
  /-- Draw a number; a fair source draws it from the numbers from zero up to one. -/
  number : σ → Single × σ
  /-- Draw an index from zero to `last`, both included. -/
  index : (last : Nat) → σ → Fin (last + 1) × σ

namespace RandomSource

variable {σ : Type} [RandomSource σ]

/-- Let an event of the given probability happen or not: one drawn number decides. -/
def chance (probability : Single) (source : σ) : Bool × σ :=
  let (draw, source) := number source
  (draw.lt probability, source)

/-- Draw a side: minus one or one. -/
def side (source : σ) : Int × σ :=
  let (left, source) := coin source
  (if left then -1 else 1, source)

end RandomSource

/-- Exchange the item at each place from `last` down to one with one drawn from the places up to
it. -/
def shuffleFrom {σ α : Type} [RandomSource σ] : (last : Nat) → Array α → σ → Array α × σ
  | 0, items, source => (items, source)
  | last + 1, items, source =>
      let (place, source) := RandomSource.index (last + 1) source
      shuffleFrom last (items.swapIfInBounds (last + 1) place) source

/-- Put the items into a random order; of `n` fair draws each order results from exactly one. -/
def shuffle {σ α : Type} [RandomSource σ] (items : Array α) (source : σ) : Array α × σ :=
  shuffleFrom (items.size - 1) items source

variable {σ α : Type} [RandomSource σ]

theorem size_shuffleFrom (last : Nat) (items : Array α) (source : σ) :
    (shuffleFrom last items source).1.size = items.size := by
  induction last generalizing items source with
  | zero => rfl
  | succ last ih => simp [shuffleFrom, ih]

@[simp]
theorem size_shuffle (items : Array α) (source : σ) :
    (shuffle items source).1.size = items.size :=
  size_shuffleFrom _ items source

end FallingSand
