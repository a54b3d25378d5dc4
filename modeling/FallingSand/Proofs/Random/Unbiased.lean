import FallingSand.Proofs.Random.Shuffle
import Mathlib.Data.List.Forall2
import Mathlib.Data.Set.Function

/-!
# Every order exactly once

A shuffle draws one place for every item but the first, beginning with the last item.  The item that
ends up last tells which place was drawn first, and what is left is a shuffle of the items before
it.  So of all answers to these draws, every order of distinct items results from exactly one, and
with fair draws all orders are equally likely.
-/

namespace FallingSand

/-- A source that takes the places it is asked for from a list. -/
structure Places where
  /-- The answers that are left. -/
  answers : List Nat

instance : RandomSource Places where
  coin places := (false, places)
  number places := (Single.zero, places)
  index last places := (Fin.ofNat (last + 1) (places.answers.headD 0), ⟨places.answers.tail⟩)

/-- Answers to the draws of a shuffle: a place up to `last`, then one up to the place before it, and
so on, and in the end one up to place one. -/
def Answers (last : Nat) (answers : List Nat) : Prop :=
  List.Forall₂ (· ≤ ·) answers (List.range' 1 last).reverse

variable {last : Nat} {answers : List Nat}

theorem answers_zero : Answers 0 answers ↔ answers = [] :=
  List.forall₂_nil_right_iff

theorem answers_succ :
    Answers (last + 1) answers ↔
      ∃ place rest, place ≤ last + 1 ∧ Answers last rest ∧ answers = place :: rest := by
  rw [Answers, List.range'_1_concat, List.reverse_concat, List.forall₂_cons_right_iff,
    Nat.add_comm 1 last]
  rfl

/-! ## What is exchanged -/

variable {α : Type} {items order : Array α}

theorem getElem?_exchanged {place : Nat} (present : last < items.size) (below : place ≤ last)
    (other : Nat) :
    (items.swapIfInBounds last place)[other]? =
      if place = other then items[last]? else if last = other then items[place]?
      else items[other]? := by
  have inside : place < items.size := Nat.lt_of_le_of_lt below present
  rw [Array.swapIfInBounds_def, dif_pos present, dif_pos inside, Array.getElem?_swap,
    Array.getElem?_eq_getElem present, Array.getElem?_eq_getElem inside]

theorem nodup_exchanged (distinct : items.toList.Nodup) (first second : Nat) :
    (items.swapIfInBounds first second).toList.Nodup :=
  (exchange_perm items first second).toList.nodup_iff.mpr distinct

/-- Once the turn of an item is over, it stays where it is. -/
theorem getElem?_shuffleFrom {σ : Type} [RandomSource σ] (present : last < items.size) (source : σ)
    {settled : Nat} (beyond : last < settled) :
    (shuffleFrom last items source).1[settled]? = items[settled]? := by
  induction last generalizing items source with
  | zero => rfl
  | succ last induction =>
      rw [shuffleFrom]
      generalize RandomSource.index (last + 1) source = drawn
      have below : drawn.1.val ≤ last + 1 := Nat.le_of_lt_succ drawn.1.isLt
      dsimp only
      rw [induction (by rw [Array.size_swapIfInBounds]; omega) _ (by omega),
        getElem?_exchanged present below, if_neg (by omega), if_neg (by omega)]

/-! ## One order for each answers, and the other way round -/

theorem shuffleFrom_places {place : Nat} (below : place ≤ last + 1) (rest : List Nat) :
    shuffleFrom (last + 1) items (Places.mk (place :: rest)) =
      shuffleFrom last (items.swapIfInBounds (last + 1) place) (Places.mk rest) := by
  have same : (Fin.ofNat (last + 2) place).val = place := Nat.mod_eq_of_lt (by omega)
  rw [shuffleFrom]
  exact congrArg (fun drawn => shuffleFrom last (items.swapIfInBounds (last + 1) drawn)
    (Places.mk rest)) same

/-- The last item is the one from the place that is drawn first. -/
theorem getElem?_last_shuffleFrom {place : Nat} (present : last + 1 < items.size)
    (below : place ≤ last + 1) (rest : List Nat) :
    (shuffleFrom (last + 1) items (Places.mk (place :: rest))).1[last + 1]? = items[place]? := by
  rw [shuffleFrom_places below, getElem?_shuffleFrom (by rw [Array.size_swapIfInBounds]; omega) _
    (Nat.lt_succ_self last), getElem?_exchanged present below]
  split
  · rename_i same
    rw [same]
  · rw [if_pos rfl]

/-- All answers are used up. -/
theorem shuffleFrom_answers (answered : Answers last answers) :
    (shuffleFrom last items (Places.mk answers)).2 = Places.mk [] := by
  induction last generalizing items answers with
  | zero =>
      obtain rfl := answers_zero.mp answered
      rfl
  | succ last induction =>
      obtain ⟨place, rest, below, later, rfl⟩ := answers_succ.mp answered
      rw [shuffleFrom_places below]
      exact induction later

/-- Different answers lead to different orders. -/
theorem answers_unique (present : last < items.size) (distinct : items.toList.Nodup)
    {others : List Nat} (answered : Answers last answers) (answeredOther : Answers last others)
    (same : (shuffleFrom last items (Places.mk answers)).1 =
      (shuffleFrom last items (Places.mk others)).1) :
    answers = others := by
  induction last generalizing items answers others with
  | zero => rw [answers_zero.mp answered, answers_zero.mp answeredOther]
  | succ last induction =>
      obtain ⟨place, rest, below, later, rfl⟩ := answers_succ.mp answered
      obtain ⟨other, others, belowOther, laterOther, rfl⟩ := answers_succ.mp answeredOther
      have final := congrArg (fun order : Array α => order[last + 1]?) same
      rw [getElem?_last_shuffleFrom present below,
        getElem?_last_shuffleFrom present belowOther] at final
      have places : place = other := by
        have inside : place < items.toList.length := by
          rw [Array.length_toList]
          omega
        exact (List.getElem?_inj inside distinct).mp (by simpa using final)
      subst places
      rw [shuffleFrom_places below, shuffleFrom_places below] at same
      rw [induction (by rw [Array.size_swapIfInBounds]; omega)
        (nodup_exchanged distinct _ _) later laterOther same]

/-- Of an order in which all items beyond a place are settled, the item at that place comes from
this place or from one before it. -/
theorem exists_place (present : last < items.size) (distinct : items.toList.Nodup)
    (perm : order.Perm items) (settled : ∀ place, last < place → order[place]? = items[place]?) :
    ∃ place ≤ last, items[place]? = order[last]? := by
  have inside : last < order.size := perm.size_eq ▸ present
  have listed : order[last] ∈ items := perm.mem_iff.mp (Array.getElem_mem inside)
  obtain ⟨place, found⟩ := Array.mem_iff_getElem?.mp listed
  rw [← Array.getElem?_eq_getElem inside] at found
  refine ⟨place, ?_, found⟩
  by_contra beyond
  have again := settled place (Nat.lt_of_not_le beyond)
  rw [found, ← Array.getElem?_toList, ← Array.getElem?_toList] at again
  have unique : order.toList.Nodup := perm.toList.nodup_iff.mpr distinct
  have places : last = place := (List.getElem?_inj (by simpa using inside) unique).mp again.symm
  omega

/-- Every order comes from some answers. -/
theorem exists_answers (present : last < items.size) (distinct : items.toList.Nodup)
    (perm : order.Perm items) (settled : ∀ place, last < place → order[place]? = items[place]?) :
    ∃ answers, Answers last answers ∧ (shuffleFrom last items (Places.mk answers)).1 = order := by
  induction last generalizing items with
  | zero =>
      obtain ⟨place, first, found⟩ := exists_place present distinct perm settled
      obtain rfl := Nat.le_zero.mp first
      refine ⟨[], answers_zero.mpr rfl, Array.ext_getElem? fun place => ?_⟩
      rcases Nat.eq_zero_or_pos place with rfl | beyond
      · exact found
      · exact (settled place beyond).symm
  | succ last induction =>
      obtain ⟨place, below, found⟩ := exists_place present distinct perm settled
      have exchanged : order.Perm (items.swapIfInBounds (last + 1) place) :=
        perm.trans (exchange_perm items _ _).symm
      obtain ⟨rest, later, result⟩ := induction
        (by rw [Array.size_swapIfInBounds]; omega) (nodup_exchanged distinct (last + 1) place)
        exchanged fun other beyond => by
          rw [getElem?_exchanged present below]
          rcases Nat.eq_or_lt_of_le beyond with rfl | further
          · split
            · rename_i same
              rw [← found, same]
            · rw [if_pos rfl, found]
          · rw [if_neg (by omega), if_neg (by omega), settled other further]
      refine ⟨place :: rest, answers_succ.mpr ⟨place, rest, below, later, rfl⟩, ?_⟩
      rw [shuffleFrom_places below, result]

/-- A shuffle of distinct items, answered by a place up to `i` for each `i` from the last place down
to one, uses up these answers, and its results are all orders of the items, each from exactly one
list of answers. -/
theorem shuffle_bijective (items : List α) (distinct : items.Nodup) :
    Set.BijOn (fun answers => (shuffle items.toArray (Places.mk answers)).1.toList)
      {answers | Answers (items.length - 1) answers} {order | order.Perm items} ∧
    ∀ answers, Answers (items.length - 1) answers →
      (shuffle items.toArray (Places.mk answers)).2 = Places.mk [] := by
  refine ⟨⟨fun answers _ => ?_, ?_, ?_⟩, fun answers answered => shuffleFrom_answers answered⟩
  · exact (shuffle_perm items.toArray (Places.mk answers)).toList
  · intro answers answered others answeredOther same
    rcases Nat.eq_zero_or_pos items.length with empty | positive
    · simp only [Set.mem_ofPred_eq, empty] at answered answeredOther
      rw [answers_zero.mp answered, answers_zero.mp answeredOther]
    · exact answers_unique (Nat.sub_lt positive Nat.one_pos) distinct answered answeredOther
        (Array.toList_inj.mp same)
  · intro order perm
    rcases Nat.eq_zero_or_pos items.length with empty | positive
    · obtain rfl := List.length_eq_zero_iff.mp empty
      obtain rfl := List.perm_nil.mp perm
      exact ⟨[], answers_zero.mpr rfl, rfl⟩
    · have orders : order.toArray.Perm items.toArray := List.Perm.toArray perm
      have present : items.length - 1 < items.toArray.size := Nat.sub_lt positive Nat.one_pos
      obtain ⟨answers, answered, result⟩ :=
        exists_answers present distinct orders fun place beyond => by
          have size := orders.size_eq
          simp only [List.size_toArray] at size
          rw [Array.getElem?_eq_none (by simp; omega), Array.getElem?_eq_none (by simp; omega)]
      exact ⟨answers, answered, congrArg Array.toList result⟩

theorem letters_shuffle_bijective : ['a', 'b', 'c'].Nodup ∧
    Set.BijOn (fun answers => (shuffle #['a', 'b', 'c'] (Places.mk answers)).1.toList)
      {answers | Answers 2 answers} {order | order.Perm ['a', 'b', 'c']} ∧
    ∀ answers, Answers 2 answers →
      (shuffle #['a', 'b', 'c'] (Places.mk answers)).2 = Places.mk [] :=
  ⟨by decide, shuffle_bijective ['a', 'b', 'c'] (by decide)⟩

end FallingSand
