import FallingSand.Grid.Site
import FallingSand.Tick.Phase

/-!
# Bands

The rows of a grid can be divided into bands that are stepped independently of each other.  A band
reaches one row beyond its own on each side, so bands of a pass are kept apart: the bands of even
number take their turns before those of odd number, and a band has at least three rows.
-/

namespace FallingSand

/-- The least number of rows of a band, if there is more than one. -/
def minBandRows : Nat := 3

/-- Consecutive bands from a row on, the first `extra` of them one row longer than the others. -/
def bandsFrom (length : Nat) : (count extra first : Nat) → List Rows
  | 0, _, _ => []
  | count + 1, 0, first =>
      ⟨first, first + length⟩ :: bandsFrom length count 0 (first + length)
  | count + 1, extra + 1, first =>
      ⟨first, first + length + 1⟩ :: bandsFrom length count extra (first + length + 1)

/-- The bands of a grid: as many as wished for but not so many that one gets too short, and at least
one. -/
def bandRows (height wished : Nat) : List Rows :=
  let count := max 1 (min wished (height / minBandRows))
  bandsFrom (height / count) count (height % count) 0

/-- Fold a word into a hash. -/
def hashStep (hash word : UInt64) : UInt64 :=
  let mixed := (hash ^^^ word) * 0xbf58476d1ce4e5b9
  mixed ^^^ (mixed >>> 31)

/-- The seed of the generator for one band in one phase of one tick. -/
def bandSeed (seed tick : UInt64) (phase : Phase) (band : UInt64) : UInt64 :=
  hashStep (hashStep (hashStep (seed ^^^ 0x9e3779b97f4a7c15) tick) phase.number) band

end FallingSand
