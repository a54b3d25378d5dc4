import FallingSand.Proofs.Mod.Values
import FallingSand.Proofs.Tick.Sinking
import FallingSand.Tick.Step

/-!
# A single column settles

Without reactions and transitions, a tick over one column of falling cells does what its phase of
movement does.  As there are only so many pairs of cells, they are all in order after as many ticks,
and from then on nothing changes.
-/

namespace FallingSand

variable {size : Size} {σ : Type} [RandomSource σ] {table : ElementTable} {window : Window}
  {board : Board size}

/-! ## A tick without rules -/

section Quiet

variable {rules : RuleSet} {rows : Rows} {progress : Progress size σ}

theorem changeAll_of_nil (inert : rules.transitions = []) :
    (progress.changeAll rules rows).board = progress.board ∧
      (progress.changeAll rules rows).tally = progress.tally := by
  have idle (element : ElementId) (source : σ) :
      (rules.tryTransition element source).1 = none := by
    rw [RuleSet.tryTransition, RuleSet.transitionsFor_eq_filter, inert]
    split <;> rfl
  rw [Progress.changeAll]
  dsimp only
  rw [← Array.foldl_toList]
  refine List.foldlRecOn (motive := fun after : Progress size σ =>
    after.board = progress.board ∧ after.tally = progress.tally) _ _ ⟨rfl, rfl⟩ ?_
  intro after same site _
  rw [Progress.change]
  dsimp only
  rw [idle]
  exact same

theorem reactAll_of_nil (inert : rules.reactions = []) :
    (progress.reactAll rules window rows).board = progress.board ∧
      (progress.reactAll rules window rows).tally = progress.tally := by
  have idle (element : ElementId) : rules.hasReactionsFrom element = false := by
    rw [← Bool.not_eq_true, RuleSet.hasReactionsFrom_iff, inert]
    simp
  rw [Progress.reactAll]
  dsimp only
  rw [← Array.foldl_toList]
  refine List.foldlRecOn (motive := fun after : Progress size σ =>
    after.board = progress.board ∧ after.tally = progress.tally) _ _ ⟨rfl, rfl⟩ ?_
  intro after same site _
  rw [Progress.react]
  dsimp only
  rw [idle, Bool.not_false, Bool.or_true, if_pos rfl]
  exact same

end Quiet

namespace Board

theorem column_clear (phase : Phase) (board : Board size) :
    (phase.clear board).column = board.column := by
  refine column_congr fun site => ?_
  rw [Phase.cell_clear]
  cases phase <;> rfl

theorem Falling.clear (falling : board.Falling table) (phase : Phase) :
    (phase.clear board).Falling table := by
  intro site
  rw [Phase.cell_clear]
  cases phase <;> exact falling site

end Board

section Tick

variable {rules : RuleSet} (noReactions : rules.reactions = [])
  (noTransitions : rules.transitions = [])
  (numbers : ∀ id, (rules.elements.properties id).density.isNaN = false)

include noReactions noTransitions numbers

/-- In a tick, either no cell moves, and then the column is settled, or fewer pairs are out of
order. -/
theorem lowers_tick (narrow : size.width = 1) (edge : Edge)
    (falling : board.Falling rules.elements) (source : σ) :
    let after := Phase.all.foldl (Phase.runWhole rules edge) (Progress.start board source)
    after.board.Falling rules.elements ∧
      (after.tally.moved = 0 ∧ after.board.column = board.column ∧
          rules.elements.Settled board.column ∨
        rules.elements.inversions after.board.column < rules.elements.inversions board.column) := by
  have room : 0 < (Window.whole size edge).rows.count := by
    simp [Window.whole, Size.rows, Rows.count, size.height_pos]
  let changed := Phase.runWhole rules edge (Progress.start board source) .change
  let moved := Phase.runWhole rules edge changed .move
  let reacted := Phase.runWhole rules edge moved .react
  have last : Phase.all.foldl (Phase.runWhole rules edge) (Progress.start board source) = reacted :=
    rfl
  have change : changed.board = board ∧ changed.tally = Tally.zero := changeAll_of_nil noTransitions
  have react : reacted.board = Phase.clear .react moved.board ∧ reacted.tally = moved.tally :=
    reactAll_of_nil noReactions
  have entered : (changed.enter .move).board = Phase.clear .move board :=
    congrArg (Phase.clear .move) change.1
  have falls : (changed.enter .move).board.Falling rules.elements := entered ▸ falling.clear .move
  have move : moved.board.Falling rules.elements ∧ _ := Progress.lowers_moveAll narrow room falls
  rw [last]
  dsimp only
  rw [react.1, react.2, Board.column_clear]
  refine ⟨move.1.clear .react, ?_⟩
  rcases move.2 with ⟨same, tally, stuck⟩ | fewer
  · have unmoved (site : Site size) : ((changed.enter .move).board.cell site).moved = false := by
      rw [entered, Phase.cell_clear]
      rfl
    have settled := Board.settled_of_stuck narrow numbers falls unmoved stuck
    rw [entered, Board.column_clear] at settled
    refine Or.inl ⟨?_, ?_, settled⟩
    · exact congrArg Tally.moved (tally.trans change.2)
    · exact (congrArg Board.column (same.trans entered)).trans (Board.column_clear .move board)
  · rw [entered, Board.column_clear] at fewer
    exact Or.inr fewer

end Tick

/-! ## Many ticks -/

/-- The grid and the source of randomness one tick later. -/
def Grid.advance (rules : RuleSet) (state : Grid × σ) : Grid × σ :=
  (state.1.step rules state.2).2

/-- A column of a height that is on its way: all cells fall, and the height is that of the grid. -/
structure Grid.Sinking (table : ElementTable) (height : Nat) (grid : Grid) : Prop where
  /-- There is one column. -/
  narrow : grid.size.width = 1
  /-- It has that height. -/
  height : grid.size.height = height
  /-- Every cell is unoccupied or falls. -/
  falling : grid.board.Falling table

section Many

variable {rules : RuleSet} (noReactions : rules.reactions = [])
  (noTransitions : rules.transitions = [])
  (numbers : ∀ id, (rules.elements.properties id).density.isNaN = false)

include noReactions noTransitions numbers

theorem lowers_step {grid : Grid} {height : Nat} (sinking : grid.Sinking rules.elements height)
    (source : σ) :
    let outcome := grid.step rules source
    outcome.2.1.Sinking rules.elements height ∧
      (outcome.1.moved = 0 ∧ outcome.2.1.board.column = grid.board.column ∧
          rules.elements.Settled grid.board.column ∨
        rules.elements.inversions outcome.2.1.board.column <
          rules.elements.inversions grid.board.column) := by
  have lowers := lowers_tick noReactions noTransitions numbers sinking.narrow grid.edge
    sinking.falling source
  exact ⟨⟨sinking.narrow, sinking.height, lowers.1⟩, lowers.2⟩

theorem lowers_advance {grid : Grid} {height : Nat} (sinking : grid.Sinking rules.elements height)
    (source : σ) (count : Nat) :
    let state := (Grid.advance rules)^[count] (grid, source)
    state.1.Sinking rules.elements height ∧
      (rules.elements.Settled state.1.board.column ∨
        rules.elements.inversions state.1.board.column + count ≤
          rules.elements.inversions grid.board.column) := by
  induction count with
  | zero => exact ⟨sinking, Or.inr (Nat.le_refl _)⟩
  | succ count induction =>
      rw [Function.iterate_succ_apply']
      obtain ⟨before, progress⟩ := induction
      generalize (Grid.advance rules)^[count] (grid, source) = state at before progress
      obtain ⟨after, step⟩ := lowers_step noReactions noTransitions numbers before state.2
      refine ⟨after, ?_⟩
      rcases step with ⟨-, same, settled⟩ | fewer
      · exact Or.inl (same ▸ settled)
      · rcases progress with settled | bounded
        · rw [ElementTable.settled_iff numbers] at settled
          omega
        · exact Or.inr (by rw [Grid.advance]; omega)

end Many

/-- In a grid of one column whose cells are unoccupied or fall, under the rules of a mod without
reactions and transitions, a tick after any number of ticks leaves every cell in its place exactly
when the column is settled, and otherwise leaves fewer pairs out of order.  So a column of a given
height is settled, and stays as it is, after as many ticks as it has pairs of cells. -/
theorem column_settles {declarations : Declarations} {rules : RuleSet}
    (compiled : declarations.compile = .ok rules) (noReactions : rules.reactions = [])
    (noTransitions : rules.transitions = []) (grid : Grid) (narrow : grid.size.width = 1)
    (falling : grid.board.Falling rules.elements) (source : σ) (count : Nat) :
    let state := (Grid.advance rules)^[count] (grid, source)
    let outcome := state.1.step rules state.2
    let before := state.1.board.column
    let after := outcome.2.1.board.column
    (outcome.1.moved = 0 ∧ after = before ↔ rules.elements.Settled before) ∧
    (outcome.1.moved = 0 ∧ after = before ∨
      rules.elements.inversions after < rules.elements.inversions before) ∧
    (grid.size.height * (grid.size.height - 1) / 2 ≤ count →
      rules.elements.Settled before ∧ after = before) := by
  intro state outcome before after
  have numbers (id : ElementId) : (rules.elements.properties id).density.isNaN = false := by
    have accepted : (rules.elements.properties id).density.isFinite = true :=
      Declarations.accepts_of_compiled compiled id .density
    simp only [Single.isFinite, decide_eq_true_eq] at accepted
    simp only [Single.isNaN, decide_eq_false_iff_not]
    omega
  have few := rules.elements.inversions_le grid.board.column
  rw [Board.length_column] at few
  obtain ⟨sinking, bounded⟩ := lowers_advance noReactions noTransitions numbers
    ⟨narrow, rfl, falling⟩ source count
  obtain ⟨-, step⟩ := lowers_step noReactions noTransitions numbers sinking state.2
  rcases step with ⟨quiet, same, settled⟩ | fewer
  · exact ⟨iff_of_true ⟨quiet, same⟩ settled, Or.inl ⟨quiet, same⟩, fun _ => ⟨settled, same⟩⟩
  · have unsettled : ¬rules.elements.Settled before := by
      rw [ElementTable.settled_iff numbers]
      exact Nat.ne_of_gt (Nat.zero_lt_of_lt fewer)
    have changed : after ≠ before := fun same => by
      have less : rules.elements.inversions after < _ := fewer
      rw [same] at less
      exact Nat.lt_irrefl _ less
    refine ⟨iff_of_false (fun still => changed still.2) unsettled, Or.inr fewer, fun enough => ?_⟩
    have bound := bounded.resolve_left unsettled
    omega

/-- Sand that falls. -/
def dropping : Declarations :=
  [.element "Sand" "#c2b280", .property .gravity (.element "Sand") Single.one]

/-- One column of three rows. -/
def shaft : Size := ⟨1, 3, Nat.one_pos, by decide, by decide⟩

/-- A column with one occupied cell, at the top. -/
def dropped (element : ElementId) : Board shaft :=
  (Board.empty shaft).put ⟨⟨0, Nat.one_pos⟩, ⟨0, by decide⟩⟩ (Cell.ofElement element)

theorem Board.isEmpty_cell_empty {size : Size} (site : Site size) :
    ((Board.empty size).cell site).isEmpty = true := by
  simp [empty, cell, Cell.isEmpty, Cell.empty, Cell.ofElement, ElementId.isEmpty]

theorem dropped_falling {table : ElementTable} {element : ElementId}
    (heavy : Single.one.le (table.properties element).gravity = true) :
    (dropped element).Falling table := by
  intro site
  rw [dropped, Board.cell_put]
  split
  · exact Or.inr heavy
  · exact Or.inl (Board.isEmpty_cell_empty site)

theorem dropped_settles : ∃ rules sand, dropping.compile = .ok rules ∧
    rules.elements.idOf? "Sand" = some sand ∧
    let state := (Grid.advance rules)^[3] (⟨shaft, .wall, 0, dropped sand⟩, Xoshiro.ofSeed 7)
    rules.elements.Settled state.1.board.column := by
  have compiles : Succeeds dropping.compile := Declarations.compile_succeeds (by decide)
    ⟨by decide, by decide, by decide, by decide⟩ (by decide) (by decide)
  obtain ⟨rules, compiled⟩ := compiles
  have given : ⟨[1], [], .property .gravity (.element "Sand") Single.one⟩ ∈ dropping.entries :=
    List.mem_cons_of_mem _ List.mem_cons_self
  have only : ∀ entry ∈ dropping.entries, ∀ subject value,
      entry.statement = .property .gravity subject value → value = Single.one := by
    simp [dropping, Declarations.entries, Statement.entriesFrom, Statement.entries]
  obtain ⟨sand, named, weight⟩ := Declarations.value_of_named compiled given only
  have heavy : Single.one.le ((rules.elements.properties sand).get .gravity) = true := by
    rw [weight]
    decide
  obtain ⟨declared, directives, gathered, checked, -, rfl⟩ :=
    Declarations.compile_eq_ok_iff.mp compiled
  have noReactions : (declared.ruleSet directives).reactions = [] :=
    List.map_eq_nil_iff.mp (Declared.map_some_reactions gathered checked)
  have noTransitions : (declared.ruleSet directives).transitions = [] :=
    List.map_eq_nil_iff.mp (Declared.map_some_transitions gathered checked)
  have enough : 3 * (3 - 1) / 2 ≤ 3 := by decide
  have settles := column_settles compiled noReactions noTransitions
    ⟨shaft, .wall, 0, dropped sand⟩ rfl (dropped_falling heavy) (Xoshiro.ofSeed 7) 3
  exact ⟨_, sand, compiled, named, (settles.2.2 enough).1⟩

end FallingSand
