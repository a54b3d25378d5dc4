import FallingSand.Random.Source

/-!
# A seeded generator

The generator `xoshiro256**`: four 64-bit words of state, seeded from one word by four steps of
`splitmix64`.  A number takes its top twenty-four bits, a coin its top bit, and an index the high
word of a product, retried while the low word falls outside the range that every index fills
evenly.
-/

namespace FallingSand

/-- The state of the seeded generator. -/
structure Xoshiro where
  /-- First word of state. -/
  a : UInt64
  /-- Second word of state. -/
  b : UInt64
  /-- Third word of state. -/
  c : UInt64
  /-- Fourth word of state. -/
  d : UInt64
  deriving DecidableEq

namespace Xoshiro

/-- Rotate a word to the left. -/
def rotateLeft (word : UInt64) (places : UInt64) : UInt64 :=
  (word <<< places) ||| (word >>> (64 - places))

/-- Mix the bits of a counter into an evenly spread word. -/
def splitMix (counter : UInt64) : UInt64 :=
  let word := (counter ^^^ (counter >>> 30)) * 0xbf58476d1ce4e5b9
  let word := (word ^^^ (word >>> 27)) * 0x94d049bb133111eb
  word ^^^ (word >>> 31)

/-- The distance between two counters of the seeding sequence. -/
def seedStride : UInt64 := 0x9e3779b97f4a7c15

/-- The state of the generator that belongs to a seed. -/
def ofSeed (seed : UInt64) : Xoshiro where
  a := splitMix (seed + seedStride)
  b := splitMix (seed + 2 * seedStride)
  c := splitMix (seed + 3 * seedStride)
  d := splitMix (seed + 4 * seedStride)

/-- The word that a state stands for. -/
def output (state : Xoshiro) : UInt64 :=
  rotateLeft (state.b * 5) 7 * 9

/-- The state after one word. -/
def next (state : Xoshiro) : Xoshiro :=
  let c := state.c ^^^ state.a
  let d := state.d ^^^ state.b
  { a := state.a ^^^ d
    b := state.b ^^^ c
    c := c ^^^ (state.b <<< 17)
    d := rotateLeft d 45 }

/-! ## Indices -/

/-- The low word of a product. -/
def lowWord (word : UInt64) (size : Nat) : UInt64 :=
  word * UInt64.ofNat size

/-- What is above the low word of a product.  The halves of the word are multiplied one by one, so
that the products stay small. -/
def highWord (word : UInt64) (size : Nat) : Nat :=
  ((word >>> 32).toNat * size + word.toUInt32.toNat * size / UInt32.size) / UInt32.size

theorem toNat_eq_halves (word : UInt64) :
    word.toNat = UInt32.size * (word >>> 32).toNat + word.toUInt32.toNat := by
  have shift : (word >>> 32).toNat = word.toNat / UInt32.size := by
    rw [UInt64.toNat_shiftRight]
    exact Nat.shiftRight_eq_div_pow word.toNat 32
  rw [shift, UInt64.toNat_toUInt32]
  exact (Nat.div_add_mod word.toNat UInt32.size).symm

theorem highWord_eq (word : UInt64) (size : Nat) :
    highWord word size = word.toNat * size / UInt64.size := by
  rw [show UInt64.size = UInt32.size * UInt32.size from rfl, ← Nat.div_div_eq_div_mul,
    toNat_eq_halves, Nat.add_mul, Nat.mul_assoc, Nat.mul_add_div (by decide), highWord]

theorem highWord_lt (word : UInt64) (last : Nat) : highWord word (last + 1) < last + 1 := by
  have bound : word.toNat < UInt64.size := word.toNat_lt
  rw [highWord_eq]
  apply (Nat.div_lt_iff_lt_mul (by decide)).mpr
  rw [Nat.mul_comm]
  exact Nat.mul_lt_mul_of_pos_left bound (Nat.succ_pos last)

/-- The index below `last + 1` that a word stands for. -/
def indexOf (last : Nat) (word : UInt64) : Fin (last + 1) :=
  ⟨highWord word (last + 1), highWord_lt word last⟩

/-- The greatest low word that keeps the indices below `size` equally likely. -/
def zone (size : Nat) : UInt64 :=
  (UInt64.ofNat size <<< UInt64.ofNat (63 - Nat.log2 size)) - 1

/-- Draw words until the low word of the product lies in the zone.  Each try succeeds with more
than even odds; the last of `tries` is taken as it comes. -/
def indexWithin (last : Nat) : (tries : Nat) → Xoshiro → Fin (last + 1) × Xoshiro
  | 0, state => (indexOf last state.output, state.next)
  | tries + 1, state =>
      if lowWord state.output (last + 1) ≤ zone (last + 1) then
        (indexOf last state.output, state.next)
      else indexWithin last tries state.next

instance : RandomSource Xoshiro where
  coin state := (0x8000000000000000 ≤ state.output, state.next)
  number state := (Single.ofTwentyFourBits (state.output >>> 40).toNat, state.next)
  index last state := indexWithin last 4096 state

end Xoshiro
end FallingSand
