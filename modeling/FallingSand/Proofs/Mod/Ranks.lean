import FallingSand.Proofs.Mod.Values
import Mathlib.Data.Prod.Lex
import Mathlib.Data.Sum.Order

/-!
# What prevails

Something that is said in turn stands until something comes that it does not outrank.  So in the end
there stands what was said last among all that has the greatest rank, and where no two ranks are
equal the order in which things are said does not matter.
-/

namespace FallingSand

namespace Provenance

/-- Where a provenance ranks: what is said by name above all that is inherited, which ranks by the
statement and the sequence of its origin, and then by its own statement. -/
def rank : Provenance → (Nat ×ₗ Nat ×ₗ Nat) ⊕ₗ Nat
  | inherited origin statement =>
      Sum.inlₗ (toLex (origin.statement, toLex (origin.sequence, statement)))
  | explicit statement => Sum.inrₗ statement

variable {first second : Provenance}

theorem le_iff_rank_le : first.le second = true ↔ first.rank ≤ second.rank := by
  cases first with
  | explicit first =>
      cases second with
      | explicit second =>
          rw [le, decide_eq_true_eq]
          exact Sum.Lex.inr_le_inr_iff.symm
      | inherited later second => exact iff_of_false Bool.false_ne_true Sum.Lex.not_inr_le_inl
  | inherited origin first =>
      cases second with
      | explicit second => exact iff_of_true rfl (Sum.Lex.inl_le_inr _ _)
      | inherited later second =>
          have ranks : (inherited origin first).rank ≤ (inherited later second).rank ↔
              toLex (origin.statement, toLex (origin.sequence, first)) ≤
                toLex (later.statement, toLex (later.sequence, second)) := Sum.Lex.inl_le_inl_iff
          rw [ranks, inherited_le_iff, Origin.le_iff]
          simp only [Prod.Lex.toLex_le_toLex]
          cases origin
          cases later
          simp only [ne_eq, Origin.mk.injEq]
          omega

theorem not_le_iff_rank_lt : ¬first.le second = true ↔ second.rank < first.rank := by
  rw [le_iff_rank_le, not_le]

theorem rank_injective : Function.Injective rank := by
  intro first second same
  cases first <;> cases second <;> simp_all [rank]
  rename_i origin first later second
  cases origin
  cases later
  simp_all

end Provenance

/-! ## The last of greatest rank -/

section Said

variable {α : Type} {heard said : List (Provenance × α)} {standing : Option (Provenance × α)}

/-- Of what is said in turn, nothing earlier ranks higher and everything later ranks lower. -/
def LastGreatest (said : List (Provenance × α)) (best : Provenance × α) : Prop :=
  ∃ earlier later, said = earlier ++ best :: later ∧
    (∀ other ∈ earlier, other.1.rank ≤ best.1.rank) ∧
    ∀ other ∈ later, other.1.rank < best.1.rank

/-- What stands is the last of greatest rank among what is said, or nothing if nothing is said. -/
def Prevails (said : List (Provenance × α)) : Option (Provenance × α) → Prop
  | none => said = []
  | some best => LastGreatest said best

/-- What stands after something may have been said. -/
def hear (standing : Option (Provenance × α)) : Option (Provenance × α) → Option (Provenance × α)
  | none => standing
  | some (provenance, value) => prevail standing provenance value

theorem LastGreatest.rank_le {best : Provenance × α} (greatest : LastGreatest said best) :
    ∀ other ∈ said, other.1.rank ≤ best.1.rank := by
  obtain ⟨earlier, later, rfl, before, after⟩ := greatest
  intro other listed
  rcases List.mem_append.mp listed with listed | listed
  · exact before other listed
  · rcases List.mem_cons.mp listed with rfl | listed
    · exact le_refl _
    · exact (after other listed).le

theorem LastGreatest.mem {best : Provenance × α} (greatest : LastGreatest said best) :
    best ∈ said := by
  obtain ⟨earlier, later, rfl, -, -⟩ := greatest
  exact List.mem_append_right _ List.mem_cons_self

theorem LastGreatest.unique {first second : Provenance × α} (one : LastGreatest said first)
    (other : LastGreatest said second) : first = second := by
  obtain ⟨earlier, later, rfl, before, after⟩ := one
  obtain ⟨front, back, same, ahead, behind⟩ := other
  rcases List.append_eq_append_iff.mp same with ⟨between, rfl, rest⟩ | ⟨between, rfl, rest⟩
  · cases between with
    | nil => exact (List.cons.inj rest).1
    | cons head tail =>
        obtain ⟨rfl, rfl⟩ := List.cons.inj rest
        have lower := after second (List.mem_append_right _ List.mem_cons_self)
        exact absurd (ahead first (List.mem_append_right _ List.mem_cons_self)) lower.not_ge
  · cases between with
    | nil => exact (List.cons.inj rest).1.symm
    | cons head tail =>
        obtain ⟨rfl, rfl⟩ := List.cons.inj rest
        have lower := behind first (List.mem_append_right _ List.mem_cons_self)
        exact absurd (before second (List.mem_append_right _ List.mem_cons_self)) lower.not_ge

theorem prevails_single (standing : Option (Provenance × α)) :
    Prevails standing.toList standing := by
  cases standing with
  | none => rfl
  | some best => exact ⟨[], [], rfl, fun _ listed => absurd listed List.not_mem_nil,
      fun _ listed => absurd listed List.not_mem_nil⟩

theorem Prevails.unique {one other : Option (Provenance × α)} (first : Prevails said one)
    (second : Prevails said other) : one = other := by
  cases one with
  | none =>
      obtain rfl : said = [] := first
      cases other with
      | none => rfl
      | some best => exact absurd (LastGreatest.mem second) List.not_mem_nil
  | some best =>
      cases other with
      | none =>
          obtain rfl : said = [] := second
          exact absurd (LastGreatest.mem first) List.not_mem_nil
      | some better => exact congrArg some (LastGreatest.unique first second)

/-- One more thing is said. -/
theorem Prevails.concat (prevails : Prevails heard standing) (provenance : Provenance) (value : α) :
    Prevails (heard ++ [(provenance, value)]) (prevail standing provenance value) := by
  cases standing with
  | none =>
      obtain rfl : heard = [] := prevails
      exact prevails_single (some (provenance, value))
  | some best =>
      have greatest : LastGreatest heard best := prevails
      rw [prevail]
      split
      · rename_i outranked
        have higher := Provenance.le_iff_rank_le.mp outranked
        exact ⟨heard, [], rfl, fun other listed => (greatest.rank_le other listed).trans higher,
          fun _ listed => absurd listed List.not_mem_nil⟩
      · rename_i outranks
        have lower := Provenance.not_le_iff_rank_lt.mp outranks
        obtain ⟨earlier, later, rfl, before, after⟩ := greatest
        refine ⟨earlier, later ++ [(provenance, value)], by simp, before, fun other listed => ?_⟩
        rcases List.mem_append.mp listed with listed | listed
        · exact after other listed
        · obtain rfl := List.mem_singleton.mp listed
          exact lower

theorem Prevails.hear (prevails : Prevails heard standing) (next : Option (Provenance × α)) :
    Prevails (heard ++ next.toList) (hear standing next) := by
  cases next with
  | none => rwa [Option.toList_none, List.append_nil]
  | some said => exact prevails.concat said.1 said.2

/-- Of two things that are said next to each other, it does not matter which comes first, unless
they rank equal. -/
theorem prevail_comm {first second : Provenance} (differ : first ≠ second)
    (standing : Option (Provenance × α)) (value other : α) :
    prevail (prevail standing first value) second other =
      prevail (prevail standing second other) first value := by
  wlog lower : first.rank < second.rank generalizing first second value other
  · have ranks := Provenance.rank_injective.ne differ
    exact (this differ.symm other value (ranks.lt_or_gt.resolve_left lower)).symm
  cases standing with
  | none => simp only [prevail, Provenance.le_iff_rank_le, if_pos lower.le, if_neg lower.not_ge]
  | some best =>
      by_cases higher : best.1.rank ≤ second.rank
      · by_cases both : best.1.rank ≤ first.rank
        · simp only [prevail, Provenance.le_iff_rank_le, if_pos both, if_pos higher,
            if_pos lower.le, if_neg lower.not_ge]
        · simp only [prevail, Provenance.le_iff_rank_le, if_neg both, if_pos higher,
            if_neg lower.not_ge]
      · have neither : ¬best.1.rank ≤ first.rank := fun one => higher (one.trans lower.le)
        simp only [prevail, Provenance.le_iff_rank_le, if_neg neither, if_neg higher]

end Said
end FallingSand
