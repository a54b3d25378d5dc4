import FallingSand.Proofs.Tick.Division
import FallingSand.Proofs.Tick.MovedOnce
import FallingSand.Proofs.Tick.Reactions
import FallingSand.Proofs.Tick.Strip
import FallingSand.Proofs.Turn.Advance
import Mathlib.Algebra.BigOperators.Ring.List

/-!
# How often things can happen in a tick

Every cell has one turn to change, a cell that has moved is marked, and two cells are marked for
every reaction.  So there are no more transitions than cells, no more moves than cells, and twice as
many reactions are no more than cells either.  A phase of another kind leaves a counter as it is.
-/

namespace FallingSand

variable {size : Size} {rows : Rows}

/-- A measure grows in a fold by no more than it may grow in the steps together. -/
theorem foldl_le_add_sum {α β : Type} (measure : β → Nat) (weight : α → Nat) {step : β → α → β}
    {items : List α}
    (each : ∀ state, ∀ item ∈ items, measure (step state item) ≤ measure state + weight item)
    (start : β) :
    measure (items.foldl step start) ≤ measure start + (items.map weight).sum := by
  induction items generalizing start with
  | nil => exact Nat.le_refl _
  | cons item items induction =>
      obtain ⟨here, later⟩ := forall_and.mp fun state => List.forall_mem_cons.mp (each state)
      have first := here start
      have rest := induction later (step start item)
      rw [List.foldl_cons, List.map_cons, List.sum_cons]
      omega

/-! ## The sites of bands -/

theorem Size.length_sites (inside : rows.Inside size) :
    (size.sites rows).length = rows.count * size.width := by
  have row (y : Fin size.height) : (size.sitesOfRow y).length = size.width := by
    rw [sitesOfRow, List.length_map, List.length_finRange]
  have listed : ((List.finRange size.height).filter fun y => rows.contains y.val).length =
      rows.count := by
    rw [← List.length_map Fin.val, ← Function.comp_def rows.contains, ← List.filter_map,
      List.map_coe_finRange_eq_range, filter_contains_range inside.forward inside.stop_le,
      List.length_map, List.length_range]
  rw [sites, List.length_flatMap]
  simp only [row, List.map_const', List.sum_replicate_nat, listed]

/-- Bands have as many rows together as the grid. -/
theorem sum_count_bandsFrom {length count extra : Nat} (few : extra ≤ count) (first : Nat) :
    ((bandsFrom length count extra first).map Rows.count).sum = length * count + extra := by
  obtain ⟨rest, rfl⟩ := Nat.exists_eq_add_of_le few
  rw [map_count_bandsFrom few, List.sum_append, List.sum_replicate_nat, List.sum_replicate_nat,
    Nat.add_sub_cancel_left, Nat.mul_succ, Nat.mul_add, Nat.mul_comm length extra,
    Nat.mul_comm length rest]
  omega

theorem sum_count_bandRows (height wished : Nat) :
    ((bandRows height wished).map Rows.count).sum = height := by
  unfold bandRows
  generalize several : max 1 (min wished (height / minBandRows)) = count
  have positive : 0 < count := by omega
  dsimp only
  rw [sum_count_bandsFrom (Nat.le_of_lt (Nat.mod_lt _ positive)), Nat.div_add_mod']

namespace Phase

/-- Both passes together are all bands. -/
theorem passes_perm (bands : List Rows) : (pass 0 bands ++ pass 1 bands).Perm bands.zipIdx := by
  have odd : pass 1 bands = bands.zipIdx.filter fun band => !(band.2 % 2 == 0) := by
    refine List.filter_congr fun band _ => ?_
    rcases Nat.mod_two_eq_zero_or_one band.2 with even | odd
    · rw [even]
      rfl
    · rw [odd]
      rfl
  rw [odd]
  exact List.filter_append_perm _ _

theorem sum_sites_passes (size : Size) (wished : Nat) :
    ((pass 0 (bandRows size.height wished) ++ pass 1 (bandRows size.height wished)).map
      fun band => (size.sites band.1).length).sum = size.area := by
  have lengths : (bandRows size.height wished).map (fun rows => (size.sites rows).length) =
      (bandRows size.height wished).map fun rows => rows.count * size.width :=
    List.map_congr_left fun rows listed =>
      Size.length_sites ⟨(bandRows_bounds listed).1, (bandRows_bounds listed).2⟩
  calc
    _ = ((bandRows size.height wished).zipIdx.map fun band => (size.sites band.1).length).sum :=
      ((passes_perm _).map _).sum_eq
    _ = ((bandRows size.height wished).map fun rows => (size.sites rows).length).sum := by
      rw [← Function.comp_def (fun rows => (size.sites rows).length), ← List.map_map,
        List.zipIdx_map_fst]
    _ = size.height * size.width := by
      rw [lengths, List.sum_map_mul_right, sum_count_bandRows]
    _ = size.area := Nat.mul_comm _ _

end Phase

/-! ## Counters and phases -/

namespace Phase

variable {phase other : Phase} {rules : RuleSet} {edge : Edge}

/-- How often what the phase is there for has happened. -/
def counter : Phase → Tally → Nat
  | change, tally => tally.transitions
  | move, tally => tally.moved
  | react, tally => tally.reactions

/-- How many cells what the phase is there for takes. -/
def share : Phase → Nat
  | change => 1
  | move => 1
  | react => 2

/-- A phase leaves the counters of other phases as they are. -/
theorem keeps_counter (different : phase ≠ other) (rules : RuleSet) (edge : Edge) (count : Nat) :
    phase.Keeps rules edge fun (_ : Board size) tally => other.counter tally = count := by
  cases phase with
  | change =>
      refine change_keeps fun turn counted => ?_
      cases turn with
      | idle _ => exact counted
      | fires _ _ => cases other <;> first | exact counted | exact absurd rfl different
  | move =>
      refine move_keeps fun reach site progress counted => ?_
      rcases progress.move_counts rules.elements ⟨edge, reach⟩ site with ⟨-, same⟩ | moved
      · rw [same]
        exact counted
      · rw [moved]
        cases other <;> first | exact counted | exact absurd rfl different
  | react =>
      refine react_keeps fun turn counted => ?_
      cases turn with
      | idle _ => exact counted
      | fires _ _ _ _ _ => cases other <;> first | exact counted | exact absurd rfl different

/-! ### The counter of the phase itself -/

/-- The rows of a grid have no more turns to change than sites. -/
theorem transitions_changeAll {σ : Type} [RandomSource σ] (rules : RuleSet) (rows : Rows)
    (progress : Progress size σ) :
    (progress.changeAll rules rows).tally.transitions ≤
      progress.tally.transitions + (size.sites rows).length := by
  have turn (progress : Progress size σ) (site : Site size) :
      (progress.change rules site).2.tally.transitions ≤ progress.tally.transitions + 1 := by
    have cases := progress.changes rules site
    generalize progress.change rules site = result at cases
    cases cases with
    | idle _ => exact Nat.le_succ _
    | fires _ _ => exact Nat.le_refl _
  rw [Progress.changeAll]
  generalize drawn : shuffle (size.sites rows).toArray progress.source = order
  have few : order.1.toList.length = (size.sites rows).length := by
    rw [← drawn, Array.length_toList, size_shuffle, List.size_toArray]
  dsimp only
  rw [← Array.foldl_toList]
  calc
    _ ≤ progress.tally.transitions + (order.1.toList.map fun _ => 1).sum :=
      foldl_le_add_sum (fun progress : Progress size σ => progress.tally.transitions) (fun _ => 1)
        (fun state site _ => turn state site) { progress with source := order.2 }
    _ = progress.tally.transitions + (size.sites rows).length := by
      rw [List.map_const', List.sum_replicate_nat, Nat.mul_one, few]

theorem moved_le {board : Board size} {tally : Tally} {start : Nat}
    (counted : tally.moved = start + board.movedCount) : tally.moved ≤ start + size.area := by
  have few : board.movedCount ≤ size.area := (Finset.card_le_univ _).trans_eq size.card_site
  omega

/-- Every reaction takes two sites. -/
theorem reactions_le {before after : Board size} {tally : Tally} {start : Nat}
    (paired : Paired rules edge before start after tally) :
    2 * tally.reactions ≤ 2 * start + size.area := by
  obtain ⟨pairs, pairing, counted⟩ := paired
  have taken : pairs.card * 2 ≤ size.area :=
    calc
      pairs.card * 2 =
          (pairs.biUnion fun pair => ({pair.1, pair.2} : Finset (Site size))).card := by
        rw [Finset.card_biUnion pairing.disjoint, Finset.sum_const_nat]
        exact fun pair listed => Finset.card_pair (pairing.adjacent pair listed).1
      _ ≤ size.area := (Finset.card_le_univ _).trans_eq size.card_site
  omega

theorem movedCount_clear (board : Board size) : (move.clear board).movedCount = 0 :=
  Board.movedCount_eq_zero fun site => by
    rw [cell_clear]
    rfl

theorem counter_runWhole {σ : Type} [RandomSource σ] (phase : Phase) (rules : RuleSet)
    (edge : Edge) (progress : Progress size σ) :
    phase.share * phase.counter (phase.runWhole rules edge progress).tally ≤
      phase.share * phase.counter progress.tally + size.area := by
  cases phase with
  | change =>
      simp only [share, counter, Nat.one_mul]
      have turns := transitions_changeAll rules size.rows progress
      rw [Size.length_sites ⟨Nat.zero_le _, Nat.le_refl _⟩] at turns
      exact turns.trans_eq (congrArg _ (Nat.mul_comm _ _))
  | move =>
      simp only [share, counter, Nat.one_mul]
      refine moved_le ((move_keeps_movedCount rules edge _).runWhole progress ?_)
      rw [movedCount_clear, Nat.add_zero]
  | react =>
      exact reactions_le ((react_keeps_paired rules edge _ _).runWhole progress
        ⟨∅, Pairing.refl rules edge _, rfl⟩)

theorem counter_runBanded (phase : Phase) (rules : RuleSet) (edge : Edge) (wished : Nat)
    (seed tick : UInt64) (state : Board size × Tally) :
    phase.share * phase.counter
        (phase.runBanded rules edge (bandRows size.height wished) seed tick state).2 ≤
      phase.share * phase.counter state.2 + size.area := by
  cases phase with
  | change =>
      simp only [share, counter, Nat.one_mul]
      rw [← sum_sites_passes size wished]
      exact foldl_le_add_sum (fun state : Board size × Tally => state.2.transitions)
        (fun band : Rows × Nat => (size.sites band.1).length)
        (fun state band _ => transitions_changeAll rules band.1 _) (change.clear state.1, state.2)
  | move =>
      simp only [share, counter, Nat.one_mul]
      refine moved_le ((move_keeps_movedCount rules edge _).runBanded _ seed tick state ?_)
      rw [movedCount_clear, Nat.add_zero]
  | react =>
      exact reactions_le ((react_keeps_paired rules edge _ _).runBanded _ seed tick state
        ⟨∅, Pairing.refl rules edge _, rfl⟩)

end Phase

/-! ## Ticks -/

/-- The counters do not exceed what there are cells for. -/
structure Tally.Fits (cells : Nat) (tally : Tally) : Prop where
  /-- Every cell moves at most once. -/
  moved : tally.moved ≤ cells
  /-- Every cell changes alone at most once. -/
  transitions : tally.transitions ≤ cells
  /-- Every cell takes part in at most one reaction, and two take part in each. -/
  reactions : 2 * tally.reactions ≤ cells

/-- As there are not too many cells, the counters are small. -/
theorem Tally.Fits.small {tally : Tally} (fits : tally.Fits size.area) :
    tally.moved < 2 ^ 32 ∧ tally.transitions < 2 ^ 32 ∧ tally.reactions < 2 ^ 32 := by
  obtain ⟨moved, transitions, reactions⟩ := fits
  have few : size.area ≤ maxArea := size.area_le
  rw [maxArea] at few
  omega

/-- If each phase counts what there are cells for and leaves the other counters as they are, all
phases together count what there are cells for. -/
theorem Phase.fits_all {β : Type} (tally : β → Tally) {run : β → Phase → β} {cells : Nat}
    (own : ∀ state, ∀ phase : Phase, phase.share * phase.counter (tally (run state phase)) ≤
      phase.share * phase.counter (tally state) + cells)
    (others : ∀ state, ∀ phase other : Phase, phase ≠ other →
      other.counter (tally (run state phase)) = other.counter (tally state))
    {start : β} (quiet : tally start = Tally.zero) :
    (tally (Phase.all.foldl run start)).Fits cells := by
  let changed := run start change
  let settled := run changed move
  let ended := run settled react
  have started (phase : Phase) : phase.counter (tally start) = 0 := by
    rw [quiet]
    cases phase <;> rfl
  have transitions : change.counter (tally ended) ≤ cells := by
    have bound := own start change
    rw [started, share, Nat.one_mul, Nat.mul_zero, Nat.zero_add] at bound
    rw [others settled react change (by decide), others changed move change (by decide)]
    exact bound
  have moved : move.counter (tally ended) ≤ cells := by
    have bound := own changed move
    rw [others start change move (by decide), started, share, Nat.one_mul, Nat.mul_zero,
      Nat.zero_add] at bound
    rw [others settled react move (by decide)]
    exact bound
  have reactions : 2 * react.counter (tally ended) ≤ cells := by
    have bound := own settled react
    rw [others changed move react (by decide), others start change react (by decide), started,
      share, Nat.mul_zero, Nat.zero_add] at bound
    exact bound
  exact ⟨moved, transitions, reactions⟩

namespace Grid

theorem fits_step {σ : Type} [RandomSource σ] (rules : RuleSet) (grid : Grid) (source : σ) :
    (grid.step rules source).1.Fits grid.size.area :=
  Phase.fits_all Progress.tally
    (fun progress phase => phase.counter_runWhole rules grid.edge progress)
    (fun progress _ _ different =>
      (Phase.keeps_counter different rules grid.edge _).runWhole progress rfl) rfl

theorem fits_stepBanded (rules : RuleSet) (wished : Nat) (seed : UInt64) (grid : Grid) :
    (grid.stepBanded rules (bandRows grid.size.height wished) seed).1.Fits grid.size.area :=
  Phase.fits_all Prod.snd
    (fun state phase => phase.counter_runBanded rules grid.edge wished seed grid.tick state)
    (fun state _ _ different =>
      (Phase.keeps_counter different rules grid.edge _).runBanded _ seed grid.tick state rfl) rfl

end Grid
end FallingSand
