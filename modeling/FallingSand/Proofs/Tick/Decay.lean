import FallingSand.Proofs.Tick.Certain
import FallingSand.Proofs.Tick.Counters

/-!
# No chain of transitions

In a phase of change every site has exactly one turn, over the whole board as well as in bands.  In
its turn a cell is as the phase has found it, since no other turn writes to it.  So what a
transition has made of a cell does not change again before the next phase, and the cell has become
the target of a transition that its element had at the start.
-/

namespace FallingSand

/-! ## Certain transitions -/

namespace RuleSet

variable {σ : Type} [RandomSource σ] {rules : RuleSet} {element : ElementId} {source : σ}

open RandomSource (Fair)

theorem fair_tryTransition (fair : Fair source) (rules : RuleSet) (element : ElementId) :
    Fair (rules.tryTransition element source).2 :=
  RuleKind.transition.fair_attempt fair rules element

theorem tryTransition_isSome (fair : Fair source) (occupied : element.isEmpty = false)
    {transition : Transition} (applies : transition ∈ rules.transitionsFor element)
    (certain : transition.probability = Single.one) :
    (rules.tryTransition element source).1.isSome = true := by
  rw [← RuleKind.candidates_transition] at applies
  exact RuleKind.transition.attempt_isSome element fair.proper occupied applies certain

theorem isEmpty_of_tryTransition {target : ElementId}
    (fired : (rules.tryTransition element source).1 = some target) : element.isEmpty = false :=
  (RuleKind.transition.exists_of_attempt rules element fired).1

end RuleSet

theorem Progress.fair_change {size : Size} {σ : Type} [RandomSource σ] {progress : Progress size σ}
    (fair : RandomSource.Fair progress.source) (rules : RuleSet) (site : Site size) :
    RandomSource.Fair (progress.change rules site).2.source := by
  rw [change]
  dsimp only
  split
  · exact RuleSet.fair_tryTransition fair rules _
  · exact RuleSet.fair_tryTransition fair rules _

/-! ## Turns one after the other -/

variable {size : Size} {rules : RuleSet}

/-- From one board and tally to another by turns to change, each at a site and with a transition
that fires or without. -/
inductive Decays (rules : RuleSet) :
    Board size × Tally → List (Site size × Bool) → Board size × Tally → Prop where
  /-- There is no turn. -/
  | done (state : Board size × Tally) : Decays rules state [] state
  /-- In the first turn nothing happens, and no transition is certain. -/
  | passes {board : Board size} {tally : Tally} {site : Site size}
      {turns : List (Site size × Bool)} {after : Board size × Tally}
      (uncertain : (board.cell site).isEmpty = false →
        ∀ transition ∈ rules.transitionsFor (board.cell site).element,
          transition.probability ≠ Single.one)
      (rest : Decays rules (board, tally) turns after) :
      Decays rules (board, tally) ((site, false) :: turns) after
  /-- In the first turn a transition replaces an occupied cell, which is counted. -/
  | fires {board : Board size} {tally : Tally} {site : Site size}
      {turns : List (Site size × Bool)} {after : Board size × Tally} {transition : Transition}
      (occupied : (board.cell site).isEmpty = false)
      (applies : transition ∈ rules.transitionsFor (board.cell site).element)
      (rest : Decays rules
        (board.put site (Cell.ofElement transition.target), tally.addTransition) turns after) :
      Decays rules (board, tally) ((site, true) :: turns) after

namespace Decays

variable {before between after : Board size × Tally} {turns others : List (Site size × Bool)}
  {site : Site size}

theorem append (first : Decays rules before turns between)
    (second : Decays rules between others after) : Decays rules before (turns ++ others) after := by
  induction first with
  | done _ => exact second
  | passes uncertain _ induction => exact .passes uncertain (induction second)
  | fires occupied applies _ induction => exact .fires occupied applies (induction second)

/-- Every transition that fires is counted. -/
theorem transitions (decays : Decays rules before turns after) :
    after.2.transitions = before.2.transitions + (turns.filter Prod.snd).length := by
  induction decays with
  | done _ => rfl
  | passes _ _ induction => exact induction
  | fires _ _ _ induction =>
      rw [induction, List.filter_cons_of_pos rfl, List.length_cons, Tally.addTransition]
      dsimp only
      omega

theorem cell_of_passed (decays : Decays rules before turns after) (passed : (site, true) ∉ turns) :
    after.1.cell site = before.1.cell site := by
  induction decays with
  | done _ => rfl
  | passes _ _ induction => exact induction (List.not_mem_of_not_mem_cons passed)
  | fires _ _ _ induction =>
      obtain ⟨other, later⟩ := not_or.mp (mt List.mem_cons.mpr passed)
      rw [induction later]
      exact Board.cell_put_of_ne _ _ fun same => other (congrArg (·, true) same)

section Distinct

variable (distinct : (turns.map Prod.fst).Nodup)

include distinct

/-- When all turns are at different sites, a transition that fires finds the cell as it was at the
start. -/
theorem cell_of_fired (decays : Decays rules before turns after) (fired : (site, true) ∈ turns) :
    (before.1.cell site).isEmpty = false ∧
      ∃ transition ∈ rules.transitionsFor (before.1.cell site).element,
        after.1.cell site = Cell.ofElement transition.target := by
  induction decays with
  | done _ => cases fired
  | passes _ _ induction =>
      rcases List.mem_cons.mp fired with here | later
      · cases here
      · exact induction (List.nodup_cons.mp distinct).2 later
  | @fires board tally own turns after transition occupied applies rest induction =>
      obtain ⟨new, distinct⟩ := List.nodup_cons.mp distinct
      rcases List.mem_cons.mp fired with here | later
      · obtain rfl : site = own := congrArg Prod.fst here
        have settled : (site, true) ∉ turns := fun again => new (List.mem_map_of_mem again)
        refine ⟨occupied, transition, applies, ?_⟩
        rw [rest.cell_of_passed settled, Board.cell_put_self]
      · have other : site ≠ own := by
          rintro rfl
          exact new (List.mem_map_of_mem later)
        have found := induction distinct later
        rwa [Board.cell_put_of_ne _ _ other] at found

/-- When all turns are at different sites, no certain transition of the start is missed. -/
theorem fired_of_certain (decays : Decays rules before turns after)
    (turn : site ∈ turns.map Prod.fst) (occupied : (before.1.cell site).isEmpty = false)
    {transition : Transition}
    (applies : transition ∈ rules.transitionsFor (before.1.cell site).element)
    (certain : transition.probability = Single.one) : (site, true) ∈ turns := by
  induction decays with
  | done _ => cases turn
  | passes uncertain _ induction =>
      rcases List.mem_cons.mp turn with rfl | later
      · exact absurd certain (uncertain occupied _ applies)
      · have fired := induction (List.nodup_cons.mp distinct).2 later occupied applies
        exact List.mem_cons_of_mem _ fired
  | @fires board tally own turns after other _ _ _ induction =>
      obtain ⟨new, distinct⟩ := List.nodup_cons.mp distinct
      rcases List.mem_cons.mp turn with rfl | later
      · exact List.mem_cons_self
      · have apart : site ≠ own := fun same => new (same ▸ later)
        rw [← Board.cell_put_of_ne board (Cell.ofElement other.target) apart] at occupied applies
        exact List.mem_cons_of_mem _ (induction distinct later occupied applies)

/-- As many transitions fire as there are sites where one does. -/
theorem length_filter_fired :
    (turns.filter Prod.snd).length =
      (Finset.univ.filter fun site => (site, true) ∈ turns).card := by
  have once : ((turns.filter Prod.snd).map Prod.fst).Nodup :=
    distinct.sublist (List.filter_sublist.map _)
  have sites : ((turns.filter Prod.snd).map Prod.fst).toFinset =
      Finset.univ.filter fun site => (site, true) ∈ turns := by
    ext site
    simp [List.mem_filter]
  rw [← sites, List.toFinset_card_of_nodup once, List.length_map]

end Distinct
end Decays

/-! ## The turns of a phase -/

namespace Progress

variable {σ : Type} [RandomSource σ]

/-- The turns to change of some sites one after the other, and whether a transition fires in each.
-/
def turns (rules : RuleSet) : List (Site size) → Progress size σ → List (Site size × Bool)
  | [], _ => []
  | site :: rest, progress =>
      (site, (progress.change rules site).1) :: turns rules rest (progress.change rules site).2

/-- The turns of a phase of change over some rows. -/
def turnsAll (rules : RuleSet) (rows : Rows) (progress : Progress size σ) :
    List (Site size × Bool) :=
  let (order, source) := shuffle (size.sites rows).toArray progress.source
  turns rules order.toList { progress with source }

theorem map_fst_turns (sites : List (Site size)) (progress : Progress size σ) :
    (turns rules sites progress).map Prod.fst = sites := by
  induction sites generalizing progress with
  | nil => rfl
  | cons site sites induction => exact congrArg (site :: ·) (induction _)

theorem map_fst_turnsAll (rules : RuleSet) (rows : Rows) (progress : Progress size σ) :
    ((progress.turnsAll rules rows).map Prod.fst).Perm (size.sites rows) := by
  rw [turnsAll]
  dsimp only
  rw [map_fst_turns]
  exact (shuffle_perm _ _).toList

/-- A turn to change is the first of the turns that follow from it. -/
theorem decays_change {progress : Progress size σ} (fair : RandomSource.Fair progress.source)
    (site : Site size) {turns : List (Site size × Bool)} {after : Board size × Tally}
    (rest : Decays rules
      ((progress.change rules site).2.board, (progress.change rules site).2.tally) turns after) :
    Decays rules (progress.board, progress.tally)
      ((site, (progress.change rules site).1) :: turns) after := by
  rw [change] at rest ⊢
  dsimp only at rest ⊢
  split at rest
  · rename_i target fired
    obtain ⟨transition, applies, rfl⟩ := exists_of_tryTransition fired
    exact .fires (RuleSet.isEmpty_of_tryTransition fired) applies rest
  · rename_i passed
    refine .passes (fun occupied transition applies certain => ?_) rest
    have fires := RuleSet.tryTransition_isSome fair occupied applies certain
    rw [passed] at fires
    cases fires

theorem decays_turns {progress : Progress size σ} (fair : RandomSource.Fair progress.source)
    (sites : List (Site size)) :
    let after := sites.foldl (fun progress site => (progress.change rules site).2) progress
    Decays rules (progress.board, progress.tally) (turns rules sites progress)
      (after.board, after.tally) := by
  induction sites generalizing progress with
  | nil => exact .done _
  | cons site sites induction =>
      exact decays_change fair site (induction (fair_change fair rules site))

theorem decays_turnsAll {progress : Progress size σ} (fair : RandomSource.Fair progress.source)
    (rules : RuleSet) (rows : Rows) :
    let after := progress.changeAll rules rows
    Decays rules (progress.board, progress.tally) (progress.turnsAll rules rows)
      (after.board, after.tally) := by
  rw [changeAll, turnsAll]
  dsimp only
  rw [← Array.foldl_toList]
  let start : Progress size σ :=
    { progress with source := (shuffle (size.sites rows).toArray progress.source).2 }
  have drawn : RandomSource.Fair start.source := fair.shuffle _
  exact decays_turns drawn _

end Progress

namespace Phase

/-- The turns of a phase of change over a whole board. -/
def turnsWhole {σ : Type} [RandomSource σ] (rules : RuleSet) (progress : Progress size σ) :
    List (Site size × Bool) :=
  (progress.enter .change).turnsAll rules size.rows

/-- The turns of a phase of change over some bands, one band after the other. -/
def turnsBands (rules : RuleSet) (edge : Edge) (seed tick : UInt64) :
    List (Rows × Nat) → Board size × Tally → List (Site size × Bool)
  | [], _ => []
  | (rows, number) :: rest, state =>
      let progress : Progress size Xoshiro :=
        { board := state.1
          tally := state.2
          source := Xoshiro.ofSeed (bandSeed seed tick .change (UInt64.ofNat number)) }
      progress.turnsAll rules rows ++
        turnsBands rules edge seed tick rest
          (Phase.change.runBand rules edge seed tick state (rows, number))

/-- The turns of a phase of change over all bands of a board. -/
def turnsBanded (rules : RuleSet) (edge : Edge) (bands : List Rows) (seed tick : UInt64)
    (state : Board size × Tally) : List (Site size × Bool) :=
  turnsBands rules edge seed tick (pass 0 bands ++ pass 1 bands) state

theorem map_fst_turnsBands (rules : RuleSet) (edge : Edge) (seed tick : UInt64)
    (bands : List (Rows × Nat)) (state : Board size × Tally) :
    ((turnsBands rules edge seed tick bands state).map Prod.fst).Perm
      (bands.flatMap fun band => size.sites band.1) := by
  induction bands generalizing state with
  | nil => exact .refl _
  | cons band bands induction =>
      rw [turnsBands, List.map_append, List.flatMap_cons]
      exact (Progress.map_fst_turnsAll rules band.1 _).append (induction _)

theorem decays_turnsBands (rules : RuleSet) (edge : Edge) (seed tick : UInt64)
    (bands : List (Rows × Nat)) (state : Board size × Tally) :
    Decays rules state (turnsBands rules edge seed tick bands state)
      (bands.foldl (Phase.change.runBand rules edge seed tick) state) := by
  induction bands generalizing state with
  | nil => exact .done _
  | cons band bands induction =>
      let start : Progress size Xoshiro :=
        { board := state.1
          tally := state.2
          source := Xoshiro.ofSeed (bandSeed seed tick .change (UInt64.ofNat band.2)) }
      have first := start.decays_turnsAll (Xoshiro.fair _) rules band.1
      exact first.append (induction (Phase.change.runBand rules edge seed tick state band))

/-! ## Every site has one turn -/

/-- Sites that are all there are, and not more of them, are all different. -/
theorem nodup_of_covers {sites : List (Site size)} (all : ∀ site, site ∈ sites)
    (few : sites.length = size.area) : sites.Nodup := by
  have every : sites.toFinset = Finset.univ :=
    Finset.eq_univ_of_forall fun site => List.mem_toFinset.mpr (all site)
  have cards : (sites : Multiset (Site size)).toFinset.card = size.area :=
    (congrArg Finset.card every).trans size.card_site
  exact Multiset.toFinset_card_eq_card_iff_nodup.mp (cards.trans few.symm)

theorem sites_passes (size : Size) (wished : Nat) :
    let bands := bandRows size.height wished
    let sites := (pass 0 bands ++ pass 1 bands).flatMap fun band => size.sites band.1
    (∀ site, site ∈ sites) ∧ sites.length = size.area := by
  refine ⟨fun site => ?_, ?_⟩
  · obtain ⟨rows, band, own⟩ := bandRows_covers wished site.y.isLt
    obtain ⟨number, passing⟩ := exists_mem_passes band
    exact List.mem_flatMap.mpr ⟨(rows, number), passing, Size.mem_sites.mpr own⟩
  · rw [List.length_flatMap]
    exact sum_sites_passes size wished

end Phase

/-- In a phase with the listed turns, every cell changes at most once, by a transition of what it
was at the start. -/
structure DecaysOnce (rules : RuleSet) (before : Board size × Tally)
    (turns : List (Site size × Bool)) (after : Board size × Tally) : Prop where
  /-- Every site has exactly one turn. -/
  once : ∀ site, (turns.map Prod.fst).count site = 1
  /-- Where no transition fires, the cell stays as it is. -/
  stays : ∀ site, (site, true) ∉ turns → after.1.cell site = before.1.cell site
  /-- Where one fires, the cell becomes a fresh one, made by a transition of what it was. -/
  becomes : ∀ site, (site, true) ∈ turns → ∃ transition ∈ rules.transitions,
    transition.element = (before.1.cell site).element ∧
      after.1.cell site = Cell.ofElement transition.target
  /-- An unoccupied cell stays as it is. -/
  vacant : ∀ site, (before.1.cell site).isEmpty = true → after.1.cell site = before.1.cell site
  /-- A cell with a certain transition is replaced. -/
  certain : ∀ site, ∀ transition ∈ rules.transitions,
    transition.element = (before.1.cell site).element → transition.probability = Single.one →
      (site, true) ∈ turns
  /-- As many transitions are counted as there are sites where one fires. -/
  counted : after.2.transitions =
    before.2.transitions + (Finset.univ.filter fun site => (site, true) ∈ turns).card

theorem Decays.decaysOnce {before after : Board size × Tally} {turns : List (Site size × Bool)}
    (decays : Decays rules before turns after)
    (occupied : ∀ transition ∈ rules.transitions, transition.element.isEmpty = false)
    (all : ∀ site, site ∈ turns.map Prod.fst) (few : (turns.map Prod.fst).length = size.area) :
    DecaysOnce rules before turns after := by
  have distinct := Phase.nodup_of_covers all few
  constructor
  case once => exact fun site => List.count_eq_one_of_mem distinct (all site)
  case stays => exact fun site passed => decays.cell_of_passed passed
  case becomes =>
    intro site fired
    obtain ⟨-, transition, applies, becomes⟩ := decays.cell_of_fired distinct fired
    obtain ⟨given, own⟩ := RuleSet.mem_transitionsFor.mp applies
    exact ⟨transition, given, own, becomes⟩
  case vacant =>
    intro site vacant
    refine decays.cell_of_passed fun fired => ?_
    rw [(decays.cell_of_fired distinct fired).1] at vacant
    cases vacant
  case certain =>
    intro site transition given own certain
    have acts : (before.1.cell site).isEmpty = false := by
      rw [Cell.isEmpty, ← own]
      exact occupied transition given
    exact decays.fired_of_certain distinct (all site) acts
      (RuleSet.mem_transitionsFor.mpr ⟨given, own⟩) certain
  case counted => rw [decays.transitions, Decays.length_filter_fired distinct]

/-- In a phase of change of a compiled mod, over the whole board with a source whose numbers are
below one or in the bands of the board, every cell has one turn and changes at most once, by a
transition of what it was at the start of the phase, and the transitions that fire are counted. -/
theorem decays_once {declarations : Declarations} (compiled : declarations.compile = .ok rules)
    (size : Size) (edge : Edge) :
    (∀ (σ : Type) [RandomSource σ] (progress : Progress size σ),
      RandomSource.Fair progress.source →
        let after := Phase.change.runWhole rules edge progress
        DecaysOnce rules (progress.board, progress.tally) (Phase.turnsWhole rules progress)
          (after.board, after.tally)) ∧
    ∀ (wished : Nat) (seed tick : UInt64) (state : Board size × Tally),
      let bands := bandRows size.height wished
      DecaysOnce rules state (Phase.turnsBanded rules edge bands seed tick state)
        (Phase.change.runBanded rules edge bands seed tick state) := by
  have occupied (transition : Transition) (given : transition ∈ rules.transitions) :
      transition.element.isEmpty = false := Declarations.occupied_of_transition compiled given
  constructor
  · intro σ _ progress fair after
    have order := Progress.map_fst_turnsAll rules size.rows (progress.enter .change)
    have entering : RandomSource.Fair (progress.enter .change).source := fair
    refine (Progress.decays_turnsAll entering rules size.rows).decaysOnce occupied ?_ ?_
    · intro site
      have inside := (size.rows.contains_iff site.y).mpr ⟨Nat.zero_le _, site.y.isLt⟩
      exact order.mem_iff.mpr (Size.mem_sites.mpr inside)
    · rw [order.length_eq, Size.length_sites ⟨Nat.zero_le _, Nat.le_refl _⟩]
      exact Nat.mul_comm _ _
  · intro wished seed tick state bands
    have order := Phase.map_fst_turnsBands rules edge seed tick
      (Phase.pass 0 bands ++ Phase.pass 1 bands) state
    obtain ⟨all, few⟩ := Phase.sites_passes size wished
    refine (Phase.decays_turnsBands rules edge seed tick _ state).decaysOnce occupied ?_ ?_
    · exact fun site => order.mem_iff.mpr (all site)
    · exact order.length_eq.trans few

/-- Embers that turn to ash, and ash that blows away. -/
def smoldering : Declarations :=
  [.element "Ember" "#ff6020", .element "Ash" "#606060",
    .transition Single.one (.element "Ember") (.element "Ash"),
    .transition Single.one (.element "Ash") (.element emptyName)]

theorem smoldering_decays_once : ∃ rules, smoldering.compile = .ok rules ∧
    ∀ (size : Size) (seed : UInt64) (board : Board size),
      (let progress := Progress.start board (Xoshiro.ofSeed seed)
        let after := Phase.change.runWhole rules .wall progress
        DecaysOnce rules (board, Tally.zero) (Phase.turnsWhole rules progress)
          (after.board, after.tally)) ∧
      DecaysOnce rules (board, Tally.zero)
        (Phase.turnsBanded rules .wall (bandRows size.height 4) seed 0 (board, Tally.zero))
        (Phase.change.runBanded rules .wall (bandRows size.height 4) seed 0
          (board, Tally.zero)) := by
  have compiles : Succeeds smoldering.compile := Declarations.compile_succeeds (by decide)
    ⟨by decide, by decide, by decide, by decide⟩ (by decide) (by decide)
  obtain ⟨rules, compiled⟩ := compiles
  refine ⟨rules, compiled, fun size seed board => ?_⟩
  have once := decays_once compiled size .wall
  exact ⟨once.1 Xoshiro (Progress.start board (Xoshiro.ofSeed seed)) (Xoshiro.fair _),
    once.2 4 seed 0 (board, Tally.zero)⟩

end FallingSand
