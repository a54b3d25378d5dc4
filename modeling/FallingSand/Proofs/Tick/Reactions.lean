import FallingSand.Proofs.Tick.Phases
import FallingSand.Proofs.Turn.Firing
import Mathlib.Data.Finset.Card
import Mathlib.Data.Set.Pairwise.Basic
import Mathlib.Data.Finset.Pairwise

/-!
# What reacts with what

In a phase of reactions every cell takes part in at most one.  What has reacted falls into pairs of
adjacent sites that have no site in common, each of them rewritten by one reaction of the elements
that stood there when the phase began, and nothing else has changed.
-/

namespace FallingSand

/-! ## Pairs -/

variable {size : Size}

/-- The pairs of sites account for all that has happened between two boards. -/
structure Pairing (rules : RuleSet) (edge : Edge) (before after : Board size)
    (pairs : Finset (Site size × Site size)) : Prop where
  /-- No site is in two pairs. -/
  disjoint : (pairs : Set (Site size × Site size)).PairwiseDisjoint
    fun pair => ({pair.1, pair.2} : Finset (Site size))
  /-- The sites of a pair are adjacent. -/
  adjacent : ∀ pair ∈ pairs, Adjacent edge pair.1 pair.2
  /-- One reaction of the elements that were there has rewritten both cells. -/
  reacts : ∀ pair ∈ pairs,
    ∃ reaction ∈ rules.reactionsFor (before.cell pair.1).element (before.cell pair.2).element,
      after.cell pair.1 = Cell.ofReacted reaction.outLeft ∧
        after.cell pair.2 = Cell.ofReacted reaction.outRight
  /-- All other cells are as they were. -/
  rest : ∀ site, (∀ pair ∈ pairs, site ≠ pair.1 ∧ site ≠ pair.2) →
    after.cell site = before.cell site

namespace Pairing

variable {rules : RuleSet} {edge : Edge} {before after : Board size}
  {pairs : Finset (Site size × Site size)} {first second : Site size}

theorem refl (rules : RuleSet) (edge : Edge) (board : Board size) :
    Pairing rules edge board board ∅ where
  disjoint := by simp
  adjacent := by simp
  reacts := by simp
  rest := fun _ _ => rfl

/-- A cell that has not reacted is in no pair. -/
theorem outside (pairing : Pairing rules edge before after pairs) {site : Site size}
    (fresh : (after.cell site).reacted = false) :
    ∀ pair ∈ pairs, site ≠ pair.1 ∧ site ≠ pair.2 := by
  intro pair listed
  obtain ⟨reaction, -, left, right⟩ := pairing.reacts pair listed
  constructor
  · rintro rfl
    rw [left] at fresh
    cases fresh
  · rintro rfl
    rw [right] at fresh
    cases fresh

/-- One more reaction between cells that have not reacted is one more pair. -/
theorem add (pairing : Pairing rules edge before after pairs)
    (firstFresh : (after.cell first).reacted = false)
    (secondFresh : (after.cell second).reacted = false) (adjacent : Adjacent edge first second)
    {reaction : Reaction}
    (applies : reaction ∈
      rules.reactionsFor (after.cell first).element (after.cell second).element) :
    Pairing rules edge before
      ((after.put first (Cell.ofReacted reaction.outLeft)).put second
        (Cell.ofReacted reaction.outRight))
      (insert (first, second) pairs) := by
  have firstOutside := pairing.outside firstFresh
  have secondOutside := pairing.outside secondFresh
  have kept {site : Site size} (one : site ≠ first) (other : site ≠ second) :
      ((after.put first (Cell.ofReacted reaction.outLeft)).put second
        (Cell.ofReacted reaction.outRight)).cell site = after.cell site := by
    rw [Board.cell_put_of_ne _ _ other, Board.cell_put_of_ne _ _ one]
  constructor
  · rw [Finset.coe_insert, Set.pairwiseDisjoint_insert]
    refine ⟨pairing.disjoint, fun pair listed _ => ?_⟩
    have one := firstOutside pair listed
    have other := secondOutside pair listed
    simp [one.1.symm, one.2.symm, other.1.symm, other.2.symm]
  · exact Finset.forall_mem_insert _ _ _ |>.mpr ⟨adjacent, pairing.adjacent⟩
  · refine Finset.forall_mem_insert _ _ _ |>.mpr ⟨?_, fun pair listed => ?_⟩
    · rw [pairing.rest first firstOutside, pairing.rest second secondOutside] at applies
      exact ⟨reaction, applies, by rw [Board.cell_put_of_ne _ _ adjacent.1, Board.cell_put_self],
        Board.cell_put_self _ _ _⟩
    · obtain ⟨earlier, stands, left, right⟩ := pairing.reacts pair listed
      have one := firstOutside pair listed
      have other := secondOutside pair listed
      exact ⟨earlier, stands, by rw [kept one.1.symm other.1.symm, left],
        by rw [kept one.2.symm other.2.symm, right]⟩
  · intro site outside
    obtain ⟨here, elsewhere⟩ := Finset.forall_mem_insert _ _ _ |>.mp outside
    rw [kept here.1 here.2, pairing.rest site elsewhere]

end Pairing

/-- Some pairs account for all that has happened, and each of them has been counted. -/
def Paired (rules : RuleSet) (edge : Edge) (before : Board size) (start : Nat)
    (after : Board size) (tally : Tally) : Prop :=
  ∃ pairs, Pairing rules edge before after pairs ∧ tally.reactions = start + pairs.card

/-! ## Turns -/

namespace Progress

variable {σ : Type} {rules : RuleSet} {edge : Edge} {before board : Board size} {start : Nat}
  {tally : Tally} {site : Site size} {result : Bool × Progress size σ}

theorem Reacts.paired (turn : Reacts rules edge site board tally result)
    (paired : Paired rules edge before start board tally) :
    Paired rules edge before start result.2.board result.2.tally := by
  cases turn with
  | idle _ => exact paired
  | @fires neighbor adjacent fresh neighborFresh reaction applies _ =>
      obtain ⟨pairs, pairing, counted⟩ := paired
      refine ⟨insert (site, neighbor) pairs, pairing.add fresh neighborFresh adjacent applies, ?_⟩
      have new : (site, neighbor) ∉ pairs := fun listed => (pairing.outside fresh _ listed).1 rfl
      rw [Finset.card_insert_of_notMem new, Tally.addReaction, counted, Nat.add_assoc]

end Progress

theorem react_keeps_paired (rules : RuleSet) (edge : Edge) (before : Board size) (start : Nat) :
    Phase.react.Keeps rules edge (Paired rules edge before start) :=
  Phase.react_keeps fun turn paired => turn.paired paired

/-- In a phase of reactions, over the whole board or in bands, what happens is that some pairs of
adjacent sites, no two of which share a site, react, as many as are counted. -/
theorem react_pairs (rules : RuleSet) (edge : Edge) :
    (∀ (σ : Type) [RandomSource σ] (progress : Progress size σ),
      ∃ pairs, Pairing rules edge (Phase.react.clear progress.board)
          (Phase.react.runWhole rules edge progress).board pairs ∧
        (Phase.react.runWhole rules edge progress).tally.reactions =
          progress.tally.reactions + pairs.card) ∧
    ∀ (bands : List Rows) (seed tick : UInt64) (state : Board size × Tally),
      ∃ pairs, Pairing rules edge (Phase.react.clear state.1)
          (Phase.react.runBanded rules edge bands seed tick state).1 pairs ∧
        (Phase.react.runBanded rules edge bands seed tick state).2.reactions =
          state.2.reactions + pairs.card := by
  have start (board : Board size) (tally : Tally) :
      Paired rules edge board tally.reactions board tally :=
    ⟨∅, Pairing.refl rules edge board, by simp⟩
  constructor
  · intro σ _ progress
    exact (react_keeps_paired rules edge _ _).runWhole progress (start _ _)
  · intro bands seed tick state
    exact (react_keeps_paired rules edge _ _).runBanded bands seed tick state (start _ _)

end FallingSand
