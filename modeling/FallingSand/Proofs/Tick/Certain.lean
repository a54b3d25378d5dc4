import FallingSand.Proofs.Mod.Rules
import FallingSand.Proofs.Random.Fair
import FallingSand.Proofs.Tick.Phases
import FallingSand.Proofs.Tick.Division
import FallingSand.Proofs.Turn.Firing

/-!
# Certain reactions are not missed

When the numbers drawn are less than one, a cell does not let a certain reaction pass in its turn.
After that turn the cell, its neighbor or both have reacted, unless no reaction of theirs is
certain, and as long as neither reacts both stay what they are.  Since every cell gets its turn,
after the phase no certain reaction is left between two adjacent cells that have not reacted.
-/

namespace FallingSand

/-! ## A turn with a certain reaction -/

section Firing

variable {σ : Type} [RandomSource σ] {rules : RuleSet} {left right : ElementId}
  {reaction : Reaction} {source : σ}

open RandomSource (Fair)

theorem RuleSet.fair_tryReact (fair : Fair source) (rules : RuleSet) (left right : ElementId) :
    Fair (rules.tryReact left right source).2 :=
  RuleKind.reaction.fair_attempt fair rules (left, right)

theorem RuleSet.tryReact_isSome (fair : Fair source) (occupied : left ≠ ElementId.empty)
    (listed : reaction ∈ rules.reactionsFor left right)
    (certain : reaction.probability = Single.one) :
    (rules.tryReact left right source).1.isSome = true := by
  have able : left.isEmpty = false := by simpa [ElementId.isEmpty] using occupied
  rw [← RuleKind.candidates_reaction] at listed
  exact RuleKind.reaction.attempt_isSome (left, right) fair.proper able listed certain

namespace Progress

variable {size : Size} {site neighbor : Site size}

theorem fair_actOn {progress : Progress size σ} (fair : Fair progress.source) (rules : RuleSet)
    (site : Site size) (element : ElementId) (neighbors : List (Site size)) :
    Fair (actOn rules site element neighbors progress).2.source := by
  induction neighbors generalizing progress with
  | nil => exact fair
  | cons neighbor rest induction =>
      rw [actOn]
      dsimp only
      split
      · exact induction fair
      · split
        · exact RuleSet.fair_tryReact fair _ _ _
        · exact induction (RuleSet.fair_tryReact fair _ _ _)

theorem fair_react {progress : Progress size σ} (fair : Fair progress.source) (rules : RuleSet)
    (window : Window) (site : Site size) :
    Fair (progress.react rules window site).2.source := by
  rw [react]
  dsimp only
  split
  · exact fair
  · exact fair_actOn (fair.shuffle _) _ _ _ _

/-- Whoever acts on a fresh neighbor with a certain reaction reacts, if not with that one. -/
theorem actOn_fires {progress : Progress size σ} (fair : Fair progress.source)
    (occupied : left ≠ ElementId.empty) {neighbors : List (Site size)}
    (listed : neighbor ∈ neighbors)
    (fresh : (progress.board.cell neighbor).reacted = false)
    (applies : reaction ∈ rules.reactionsFor left (progress.board.cell neighbor).element)
    (certain : reaction.probability = Single.one) :
    (actOn rules site left neighbors progress).1 = true := by
  induction neighbors generalizing progress with
  | nil => cases listed
  | cons next rest induction =>
      rw [actOn]
      dsimp only
      rcases List.mem_cons.mp listed with rfl | later
      · rw [fresh, if_neg Bool.false_ne_true]
        have fires := RuleSet.tryReact_isSome fair occupied applies certain
        obtain ⟨outcome, fired⟩ := Option.isSome_iff_exists.mp fires
        rw [fired]
      · split
        · exact induction fair later fresh applies
        · split
          · rfl
          · exact induction (RuleSet.fair_tryReact fair _ _ _) later fresh applies

/-- In its turn, a fresh cell reacts if it has a certain reaction with a fresh neighbor. -/
theorem react_fires {progress : Progress size σ} (fair : Fair progress.source)
    (occupied : ∀ reaction ∈ rules.reactions, reaction.left ≠ ElementId.empty) {window : Window}
    (adjacent : Adjacent window.edge site neighbor)
    (inside : window.rows.contains neighbor.y = true)
    (fresh : (progress.board.cell site).reacted = false)
    (neighborFresh : (progress.board.cell neighbor).reacted = false)
    (applies : reaction ∈ rules.reactionsFor (progress.board.cell site).element
      (progress.board.cell neighbor).element)
    (certain : reaction.probability = Single.one) :
    (progress.react rules window site).1 = true := by
  obtain ⟨listed, left, -⟩ := RuleSet.mem_reactionsFor.mp applies
  have acting : (progress.board.cell site).element ≠ ElementId.empty := left ▸ occupied _ listed
  have able : rules.hasReactionsFrom (progress.board.cell site).element = true :=
    (rules.hasReactionsFrom_iff _).mpr ⟨reaction, listed, left⟩
  have present : (progress.board.cell site).isEmpty = false := by
    simpa [Cell.isEmpty, ElementId.isEmpty] using acting
  rw [react]
  simp only [fresh, able, present, Bool.not_true, Bool.or_self, Bool.false_eq_true, if_false]
  refine actOn_fires (fair.shuffle _) acting ?_ neighborFresh applies certain
  obtain ⟨offset, orthogonal, found⟩ := Window.exists_offset_of_adjacent adjacent inside
  refine Window.mem_around.mpr ⟨⟨offset, ?_, found⟩, adjacent.1.symm⟩
  simpa [mem_shuffle] using orthogonal

end Progress
end Firing

/-! ## Pairs without a certain reaction -/

variable {size : Size} {rules : RuleSet} {edge : Edge} {first second : Site size}

/-- Unless one of the two cells has reacted, no reaction of the first with the second is certain. -/
def Spent (rules : RuleSet) (first second : Site size) (board : Board size) : Prop :=
  (board.cell first).reacted = false → (board.cell second).reacted = false →
    ∀ reaction ∈ rules.reactionsFor (board.cell first).element (board.cell second).element,
      reaction.probability ≠ Single.one

/-- Adjacent cells that have not reacted have no certain reaction. -/
def Exhausted (rules : RuleSet) (edge : Edge) (board : Board size) : Prop :=
  ∀ first second, Adjacent edge first second → Spent rules first second board

namespace Progress

variable {σ : Type} [RandomSource σ]

omit [RandomSource σ] in
theorem Reacts.spent {site : Site size} {board : Board size} {tally : Tally}
    {result : Bool × Progress size σ} (turn : Reacts rules edge site board tally result)
    (spent : Spent rules first second board) : Spent rules first second result.2.board := by
  intro fresh freshSecond
  have stays := turn.cell_of_fresh fresh
  have staysSecond := turn.cell_of_fresh freshSecond
  rw [stays, staysSecond]
  exact spent (stays ▸ fresh) (staysSecond ▸ freshSecond)

theorem spent_own_turn {progress : Progress size σ} (fair : RandomSource.Fair progress.source)
    (occupied : ∀ reaction ∈ rules.reactions, reaction.left ≠ ElementId.empty) (window : Window)
    (adjacent : Adjacent window.edge first second)
    (inside : window.rows.contains second.y = true) :
    Spent rules first second (progress.react rules window first).2.board := by
  have turn := progress.reacts rules window first
  intro fresh freshSecond reaction applies certain
  have stays := turn.cell_of_fresh fresh
  have staysSecond := turn.cell_of_fresh freshSecond
  rw [stays, staysSecond] at applies
  have fired := react_fires fair occupied adjacent inside (stays ▸ fresh)
    (staysSecond ▸ freshSecond) applies certain
  have reacted := turn.reacted_of_fired fired
  rw [fresh] at reacted
  cases reacted

end Progress

/-! ## The phase -/

/-- What every step of a fold keeps and one of them brings about holds in the end, also if that
one relies on something else that every step keeps. -/
theorem foldl_brings_about {α β : Type} {I P : β → Prop} {step : β → α → β} {items : List α}
    {item : α} (listed : item ∈ items) (steady : ∀ state next, I state → I (step state next))
    (own : ∀ state, I state → P (step state item))
    (kept : ∀ state next, P state → P (step state next)) {start : β} (begins : I start) :
    P (items.foldl step start) := by
  obtain ⟨before, after, rfl⟩ := List.append_of_mem listed
  rw [List.foldl_append, List.foldl_cons]
  have reached : I (before.foldl step start) :=
    List.foldlRecOn (motive := I) _ _ begins fun state holds next _ => steady state next holds
  exact List.foldlRecOn (motive := P) _ _ (own _ reached)
    fun state holds next _ => kept state next holds

theorem react_keeps_spent (rules : RuleSet) (edge : Edge) (first second : Site size) :
    Phase.react.Keeps rules edge fun board _ => Spent rules first second board :=
  Phase.react_keeps fun turn spent => turn.spent spent

section Running

variable (occupied : ∀ reaction ∈ rules.reactions, reaction.left ≠ ElementId.empty)

include occupied

/-- The phase over the rows of a site leaves no certain reaction of it with a neighbor that can be
reached. -/
theorem spent_run {σ : Type} [RandomSource σ] {progress : Progress size σ}
    (fair : RandomSource.Fair progress.source) {reach rows : Rows}
    (adjacent : Adjacent edge first second) (own : rows.contains first.y = true)
    (inside : reach.contains second.y = true) :
    Spent rules first second (Phase.react.run rules ⟨edge, reach⟩ rows progress).board := by
  rw [Phase.run, Progress.reactAll]
  dsimp only
  rw [← Array.foldl_toList]
  have turn : first ∈ (shuffle (size.sites rows).toArray progress.source).1.toList := by
    simpa [mem_shuffle] using Size.mem_sites.mpr own
  refine foldl_brings_about (I := fun progress : Progress size σ =>
    RandomSource.Fair progress.source) (P := fun progress : Progress size σ =>
      Spent rules first second progress.board) turn ?_ ?_ ?_ (fair.shuffle _)
  · exact fun _ site fair => Progress.fair_react fair rules ⟨edge, reach⟩ site
  · exact fun _ fair => Progress.spent_own_turn fair occupied ⟨edge, reach⟩ adjacent inside
  · exact fun progress site spent => (progress.reacts rules ⟨edge, reach⟩ site).spent spent

theorem exhausted_runWhole {σ : Type} [RandomSource σ] {progress : Progress size σ}
    (fair : RandomSource.Fair progress.source) :
    Exhausted rules edge (Phase.react.runWhole rules edge progress).board := by
  intro first second adjacent
  have every (y : Fin size.height) : size.rows.contains y = true :=
    (size.rows.contains_iff y).mpr ⟨Nat.zero_le _, y.isLt⟩
  have entering : RandomSource.Fair (progress.enter .react).source := fair
  exact spent_run occupied entering adjacent (every _) (every _)

/-- A neighbor of a site of a band can be reached from the band. -/
theorem exhausted_runBanded (wished : Nat) (seed tick : UInt64) (state : Board size × Tally) :
    Exhausted rules edge
      (Phase.react.runBanded rules edge (bandRows size.height wished) seed tick state).1 := by
  intro first second adjacent
  obtain ⟨rows, band, own⟩ := bandRows_covers wished first.y.isLt
  obtain ⟨number, passing⟩ := Phase.exists_mem_passes band
  have inside : (rows.widen size.height).contains second.y = true :=
    Rows.contains_widen own adjacent.near second.y.isLt
  rw [Phase.runBanded]
  refine foldl_brings_about (I := fun _ : Board size × Tally => True)
    (P := fun state : Board size × Tally => Spent rules first second state.1) passing
      (fun _ _ _ => trivial) ?_ ?_ trivial
  · exact fun _ _ => spent_run occupied (Xoshiro.fair _) adjacent own inside
  · exact (react_keeps_spent rules edge first second).runBand seed tick

end Running

/-- After a phase of reactions of a compiled mod, over the whole board with a source whose numbers
are below one or in the bands of the board, no two adjacent cells that have not reacted have a
certain reaction. -/
theorem react_exhausts {declarations : Declarations} (compiled : declarations.compile = .ok rules)
    (size : Size) (edge : Edge) :
    (∀ (σ : Type) [RandomSource σ] (progress : Progress size σ),
      RandomSource.Fair progress.source →
        Exhausted rules edge (Phase.react.runWhole rules edge progress).board) ∧
    ∀ (wished : Nat) (seed tick : UInt64) (state : Board size × Tally),
      Exhausted rules edge
        (Phase.react.runBanded rules edge (bandRows size.height wished) seed tick state).1 := by
  have occupied : ∀ reaction ∈ rules.reactions, reaction.left ≠ ElementId.empty :=
    fun _ given => Declarations.left_ne_empty compiled given
  exact ⟨fun σ _ progress fair => exhausted_runWhole occupied fair,
    exhausted_runBanded occupied⟩

/-- A spring that fills the place next to it with water. -/
def springing : Declarations :=
  [.element "Spring" "#2040c0", .element "Water" "#4080ff",
    .reaction Single.one (.element "Spring") (.element emptyName) (.element "Spring")
      (.element "Water")]

theorem springing_exhausts : ∃ rules, springing.compile = .ok rules ∧
    (∃ reaction ∈ rules.reactions, reaction.probability = Single.one) ∧
    ∀ (size : Size) (seed : UInt64) (board : Board size),
      Exhausted rules .wrap
        (Phase.react.runWhole rules .wrap (Progress.start board (Xoshiro.ofSeed seed))).board ∧
      Exhausted rules .wrap
        (Phase.react.runBanded rules .wrap (bandRows size.height 4) seed 0
          (board, Tally.zero)).1 := by
  have compiles : Succeeds springing.compile := Declarations.compile_succeeds (by decide)
    ⟨by decide, by decide, by decide, by decide⟩ (by decide) (by decide)
  obtain ⟨rules, compiled⟩ := compiles
  refine ⟨rules, compiled, ?_, fun size seed board => ?_⟩
  · obtain ⟨declared, directives, gathered, checked, -, rfl⟩ :=
      Declarations.compile_eq_ok_iff.mp compiled
    have listed := Declared.map_some_reactions gathered checked
    generalize declared.ruleSet directives = rules at listed ⊢
    obtain ⟨reaction, only, stated⟩ : ∃ reaction, rules.reactions = [reaction] ∧
        some reaction = (rules.elements.meaning? [] (.element "Spring")).bind fun left =>
          (rules.elements.meaning? [] (.element emptyName)).bind fun right =>
            (rules.elements.meaning? [] (.element "Spring")).bind fun outLeft =>
              (rules.elements.meaning? [] (.element "Water")).bind fun outRight =>
                some ⟨Single.one, left, right, outLeft, outRight, ⟨2, 0⟩⟩ := by
      simpa [springing, Declarations.entries, Statement.entriesFrom, Statement.entries,
        RuleSet.reactionsOf, RuleSet.instances, Registry.choices, occurrences,
        ElementTable.Consistent] using listed
    refine ⟨reaction, by rw [only]; exact List.mem_singleton_self reaction, ?_⟩
    obtain ⟨left, -, stated⟩ := Option.bind_eq_some_iff.mp stated.symm
    obtain ⟨right, -, stated⟩ := Option.bind_eq_some_iff.mp stated
    obtain ⟨outLeft, -, stated⟩ := Option.bind_eq_some_iff.mp stated
    obtain ⟨outRight, -, stated⟩ := Option.bind_eq_some_iff.mp stated
    exact (congrArg Reaction.probability (Option.some.inj stated)).symm
  · have exhausts := react_exhausts compiled size .wrap
    exact ⟨exhausts.1 Xoshiro _ (Xoshiro.fair _), exhausts.2 4 seed 0 _⟩

end FallingSand
