import FallingSand.Proofs.Tick.Division
import Mathlib.Data.List.Nodup
import Mathlib.Data.Set.Function
import Mathlib.Logic.Function.Basic

/-!
# Seeds of bands

A word is folded into a hash by steps each of which can be undone: an exclusive or with a word, a
product with an odd number, and an exclusive or with a shift of oneself.  So the seed of a band
tells each of the four things that it is made of from the other three, and the generators that are
at work in a phase start from different seeds.
-/

namespace FallingSand

/-- A word is known from its exclusive or with itself shifted down, from the top bit downward. -/
theorem xor_shiftRight_injective (width : Nat) {places : Nat} (shifted : 0 < places) :
    Function.Injective fun word : BitVec width => word ^^^ (word >>> places) := by
  intro first second same
  have bits (distance place : Nat) (near : width ≤ place + distance) :
      first.getLsbD place = second.getLsbD place := by
    induction distance generalizing place with
    | zero => rw [BitVec.getLsbD_of_ge first place near, BitVec.getLsbD_of_ge second place near]
    | succ distance induction =>
        have above := induction (places + place) (by omega)
        have here := congrArg (fun word : BitVec width => word.getLsbD place) same
        simp only [BitVec.getLsbD_xor, BitVec.getLsbD_ushiftRight, above] at here
        exact Bool.xor_left_inj.mp here
  exact BitVec.eq_of_getLsbD_eq fun place _ => bits width place (Nat.le_add_left _ _)

/-! ## Steps of the hash -/

/-- A step of the hash forgets nothing of the exclusive or with which it starts. -/
theorem hashStep_eq_iff {hash other word later : UInt64} :
    hashStep hash word = hashStep other later ↔ hash ^^^ word = other ^^^ later := by
  have shifts : Function.Injective fun mixed : UInt64 => mixed ^^^ (mixed >>> 31) := by
    intro first second same
    have shifted : 0 < 31 := by decide
    have words := congrArg UInt64.toBitVec same
    exact UInt64.toBitVec_inj.mp (xor_shiftRight_injective 64 shifted words)
  have products : Function.Injective fun word : UInt64 => word * 0xbf58476d1ce4e5b9 := by
    -- the factor is odd, so there is another one that undoes it
    have inverse : (0xbf58476d1ce4e5b9 * 0x96de1b173f119089 : UInt64) = 1 := by decide
    refine Function.LeftInverse.injective (g := fun word => word * 0x96de1b173f119089)
      fun word => ?_
    change word * 0xbf58476d1ce4e5b9 * 0x96de1b173f119089 = word
    rw [UInt64.mul_assoc, inverse, UInt64.mul_one]
  exact (shifts.comp products).eq_iff

theorem eq_of_hashStep_hash {hash other word : UInt64}
    (same : hashStep hash word = hashStep other word) : hash = other :=
  (UInt64.xor_left_inj word).mp (hashStep_eq_iff.mp same)

theorem eq_of_hashStep_word {hash word later : UInt64}
    (same : hashStep hash word = hashStep hash later) : word = later :=
  (UInt64.xor_right_inj hash).mp (hashStep_eq_iff.mp same)

theorem Phase.number_injective : Function.Injective Phase.number := by
  intro first second
  cases first <;> cases second <;> decide

/-! ## Seeds -/

/-- The numbers of the bands of a grid are told apart by their words. -/
theorem ofNat_injOn_bandRows (size : Size) (wished : Nat) :
    Set.InjOn UInt64.ofNat {number | number < (bandRows size.height wished).length} := by
  have few : (bandRows size.height wished).length < 2 ^ 64 := by
    have most := Nat.div_le_self size.height minBandRows
    have rows := size.height_le
    rw [maxArea] at rows
    rw [length_bandRows]
    omega
  intro first one second other same
  have words := congrArg UInt64.toNat same
  rwa [UInt64.toNat_ofNat_of_lt' (Nat.lt_trans one few),
    UInt64.toNat_ofNat_of_lt' (Nat.lt_trans other few)] at words

/-- Two seeds of the whole, two ticks, two phases or two bands never lead to the same seed while the
other three stay as they are, so in a phase of a tick no two bands of a grid share a seed. -/
theorem bandSeed_injective :
    (∀ tick phase band, Function.Injective fun seed => bandSeed seed tick phase band) ∧
    (∀ seed phase band, Function.Injective fun tick => bandSeed seed tick phase band) ∧
    (∀ seed tick band, Function.Injective fun phase => bandSeed seed tick phase band) ∧
    (∀ seed tick phase, Function.Injective fun band => bandSeed seed tick phase band) ∧
    ∀ (size : Size) (wished : Nat) (seed tick : UInt64) (phase : Phase),
      ((bandRows size.height wished).zipIdx.map fun band =>
        bandSeed seed tick phase (UInt64.ofNat band.2)).Nodup := by
  have bands (seed tick : UInt64) (phase : Phase) :
      Function.Injective (bandSeed seed tick phase) := fun _ _ => eq_of_hashStep_word
  refine ⟨fun tick phase band one other same => ?_, fun seed phase band one other same => ?_,
    fun seed tick band one other same => ?_, bands, fun size wished seed tick phase => ?_⟩
  · have phases := eq_of_hashStep_hash same
    have ticks := eq_of_hashStep_hash phases
    have seeds := eq_of_hashStep_hash ticks
    exact (UInt64.xor_left_inj _).mp seeds
  · have phases := eq_of_hashStep_hash same
    exact eq_of_hashStep_word (eq_of_hashStep_hash phases)
  · have phases := eq_of_hashStep_hash same
    exact Phase.number_injective (eq_of_hashStep_word phases)
  · rw [← Function.comp_def (fun number => bandSeed seed tick phase (UInt64.ofNat number)),
      ← List.map_map, List.zipIdx_map_snd]
    refine List.Nodup.map_on (fun one present other presentToo same => ?_) List.nodup_range'
    rw [List.mem_range'_1, Nat.zero_add] at present presentToo
    exact ofNat_injOn_bandRows size wished present.2 presentToo.2 (bands seed tick phase same)

end FallingSand
