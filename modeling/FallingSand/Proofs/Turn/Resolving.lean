import FallingSand.Proofs.Mod.Sources
import FallingSand.Proofs.Turn.Kinds

/-!
# Which rule fires

The rules of a pair or of an element are tried in the order of their sources, each with the next
number of the random source, until one fires.  So the numbers alone decide which one that is and how
many of them are used up.  A rule that stands behind a certain one of the same pair or element is
never tried, and a rule set without it behaves in the same way.
-/

namespace FallingSand

namespace RuleKind

variable {α κ β : Type} [DecidableEq κ] {kind : RuleKind α κ β} {rules : RuleSet} {wanted : κ}

/-- The rules are listed in the order of their sources. -/
def Ordered (kind : RuleKind α κ β) (rules : RuleSet) : Prop :=
  (kind.listed rules).Pairwise fun first second =>
    (kind.origin first).Precedes (kind.origin second)

/-- All that the second rule set lacks are rules that come after a certain one of the same key. -/
structure Prunes (kind : RuleKind α κ β) (rules pruned : RuleSet) : Prop where
  /-- The rules that are left stay in their order. -/
  kept : (kind.listed pruned).Sublist (kind.listed rules)
  /-- Before each one that is missing, there is a certain one. -/
  missing : ∀ rule ∈ kind.listed rules, rule ∉ kind.listed pruned →
    ∃ earlier ∈ kind.listed rules, kind.key earlier = kind.key rule ∧
      kind.probability earlier = Single.one ∧ (kind.origin earlier).Precedes (kind.origin rule)

/-- How the rules of a kind are tried in a rule set. -/
structure Resolves (kind : RuleKind α κ β) (rules : RuleSet) : Prop where
  /-- The rules are listed in the order of their sources. -/
  ordered : kind.Ordered rules
  /-- The first candidate fires whose own number is below its probability, and each one that is
  tried takes one number. -/
  picks : ∀ (σ : Type) [RandomSource σ] (wanted : κ) (source : σ), kind.inert wanted = false →
    ∃ fired tried,
      Picks kind.probability (RandomSource.draw source) (kind.candidates rules wanted) fired tried ∧
      kind.attempt rules wanted source =
        (fired.map kind.outcome, RandomSource.after source tried)
  /-- A record shows nothing but these numbers. -/
  recorded : ∀ (σ : Type) [RandomSource σ] (wanted : κ) (source : Recorded σ),
    kind.inert wanted = false →
    ∃ fired tried,
      Picks kind.probability (RandomSource.draw source.source) (kind.candidates rules wanted) fired
        tried ∧
      kind.attempt rules wanted source =
        (fired.map kind.outcome,
          { source := RandomSource.after source.source tried
            draws := List.replicate tried .number ++ source.draws })
  /-- Where no rule is ever tried or there is none, no number is taken. -/
  untouched : ∀ (σ : Type) [RandomSource σ] (wanted : κ) (source : σ),
    kind.inert wanted = true ∨ (∀ rule ∈ kind.listed rules, kind.key rule ≠ wanted) →
    kind.attempt rules wanted source = (none, source)
  /-- What comes about comes of a listed rule that has some chance. -/
  possible : ∀ (σ : Type) [RandomSource σ] (wanted : κ) (source : σ), RandomSource.Proper source →
    ∀ outcome, (kind.attempt rules wanted source).1 = some outcome →
      ∃ rule ∈ kind.listed rules, kind.key rule = wanted ∧ kind.outcome rule = outcome ∧
        (kind.probability rule).isPositive = true
  /-- Where a rule is certain, some rule fires. -/
  certain : ∀ (σ : Type) [RandomSource σ] (source : σ), RandomSource.Proper source →
    ∀ rule ∈ kind.listed rules, kind.probability rule = Single.one →
      (kind.attempt rules (kind.key rule) source).1.isSome = true
  /-- Rules that come after a certain one of the same key can be left out. -/
  pruned : ∀ pruned : RuleSet, kind.Prunes rules pruned →
    ∀ (σ : Type) [RandomSource σ] (wanted : κ) (source : σ), RandomSource.Proper source →
      kind.attempt pruned wanted source = kind.attempt rules wanted source

theorem Prunes.attempt_eq {pruned : RuleSet} (prunes : kind.Prunes rules pruned)
    (ordered : kind.Ordered rules) {σ : Type} [RandomSource σ] {source : σ}
    (proper : RandomSource.Proper source) :
    kind.attempt pruned wanted source = kind.attempt rules wanted source := by
  have first : firstFiring kind.probability (kind.candidates pruned wanted) source =
      firstFiring kind.probability (kind.candidates rules wanted) source := by
    refine firstFiring_of_sublist (prunes.kept.filter _) (ordered.filter _)
      (fun _ _ => RuleSource.Precedes.asymm) (fun rule among dropped => ?_) proper
    obtain ⟨listed, rfl⟩ := mem_candidates.mp among
    obtain ⟨earlier, given, same, certain, before⟩ :=
      prunes.missing rule listed fun kept => dropped (mem_candidates.mpr ⟨kept, rfl⟩)
    exact ⟨earlier, mem_candidates.mpr ⟨given, same⟩, before, certain⟩
  cases able : kind.inert wanted with
  | true => rw [attempt_of_inert able, attempt_of_inert able]
  | false => rw [attempt_of_firstFiring able first, attempt_of_firstFiring able rfl]

theorem resolves (ordered : kind.Ordered rules)
    (able : ∀ rule ∈ kind.listed rules, kind.inert (kind.key rule) = false) :
    kind.Resolves rules := by
  constructor
  case ordered => exact ordered
  case picks => exact fun σ _ wanted source able => kind.exists_picks rules able source
  case recorded =>
    intro σ _ wanted source able
    obtain ⟨fired, tried, picks, same⟩ := kind.exists_picks rules able source
    rw [Recorded.draw_eq] at picks
    rw [Recorded.after_eq] at same
    exact ⟨fired, tried, picks, same⟩
  case untouched =>
    intro σ _ wanted source idle
    cases able : kind.inert wanted with
    | true => exact attempt_of_inert able
    | false =>
        have vacant : kind.candidates rules wanted = [] := by
          simpa [candidates, able] using idle
        have idle : firstFiring kind.probability (kind.candidates rules wanted) source =
            (none, source) := by
          rw [vacant, firstFiring]
        exact attempt_of_firstFiring able idle
  case possible =>
    intro σ _ wanted source proper outcome comes
    cases able : kind.inert wanted with
    | true => simp [attempt_of_inert able] at comes
    | false =>
        obtain ⟨fired, tried, picks, same⟩ := kind.exists_picks rules able source
        rw [same] at comes
        obtain ⟨rule, rfl, own⟩ := Option.map_eq_some_iff.mp comes
        obtain ⟨listed, key⟩ := mem_candidates.mp picks.mem
        exact ⟨rule, listed, key, own, picks.isPositive fun place => (proper place).1⟩
  case certain =>
    exact fun σ _ source proper rule listed certain =>
      kind.attempt_isSome _ proper (able rule listed) (mem_candidates.mpr ⟨listed, rfl⟩) certain
  case pruned =>
    exact fun pruned prunes σ _ wanted source proper => prunes.attempt_eq ordered proper

end RuleKind

/-! ## The rules of a compiled mod -/

/-- Whatever a compiled mod lets happen, to a pair or to an element, is decided by the numbers of
the source in the order of the rules. -/
theorem Declarations.rules_resolve {declarations : Declarations} {rules : RuleSet}
    (compiled : declarations.compile = .ok rules) :
    RuleKind.reaction.Resolves rules ∧ RuleKind.transition.Resolves rules := by
  refine ⟨RuleKind.resolves (pairwise_reactions compiled) fun reaction given => ?_,
    RuleKind.resolves (pairwise_transitions compiled) fun transition given => ?_⟩
  · simpa [RuleKind.reaction, Reaction.pair, ElementId.isEmpty] using left_ne_empty compiled given
  · exact occupied_of_transition compiled given

/-- A spring that would run dry half of the time if it did not well up before. -/
def welling : Declarations :=
  [.element "Spring" "#2040c0", .element "Water" "#4080ff",
    .reaction Single.one (.element "Spring") (.element emptyName) (.element "Spring")
      (.element "Water"),
    .reaction Single.half (.element "Spring") (.element emptyName) (.element emptyName)
      (.element emptyName)]

theorem reactions_of_welling {rules : RuleSet} (compiled : welling.compile = .ok rules) :
    ∃ certain dead, rules.reactions = [certain, dead] ∧ certain.pair = dead.pair ∧
      certain.probability = Single.one ∧ certain.source.Precedes dead.source := by
  obtain ⟨declared, directives, gathered, checked, -, rfl⟩ :=
    Declarations.compile_eq_ok_iff.mp compiled
  have listed := Declared.map_some_reactions gathered checked
  generalize declared.ruleSet directives = rules at listed ⊢
  obtain ⟨certain, dead, only, first, second⟩ : ∃ certain dead, rules.reactions = [certain, dead] ∧
      some certain = ((rules.elements.meaning? [] (.element "Spring")).bind fun left =>
        (rules.elements.meaning? [] (.element emptyName)).bind fun right =>
          (rules.elements.meaning? [] (.element "Spring")).bind fun outLeft =>
            (rules.elements.meaning? [] (.element "Water")).bind fun outRight =>
              some ⟨Single.one, left, right, outLeft, outRight, ⟨2, 0⟩⟩) ∧
      some dead = ((rules.elements.meaning? [] (.element "Spring")).bind fun left =>
        (rules.elements.meaning? [] (.element emptyName)).bind fun right =>
          (rules.elements.meaning? [] (.element emptyName)).bind fun outLeft =>
            (rules.elements.meaning? [] (.element emptyName)).bind fun outRight =>
              some ⟨Single.half, left, right, outLeft, outRight, ⟨3, 0⟩⟩) := by
    simpa [welling, Declarations.entries, Statement.entriesFrom, Statement.entries,
      RuleSet.reactionsOf, RuleSet.instances, Registry.choices, occurrences,
      ElementTable.Consistent, List.map_eq_cons_iff] using listed
  obtain ⟨left, spring, first⟩ := Option.bind_eq_some_iff.mp first.symm
  obtain ⟨right, vacant, first⟩ := Option.bind_eq_some_iff.mp first
  obtain ⟨outLeft, -, first⟩ := Option.bind_eq_some_iff.mp first
  obtain ⟨outRight, -, first⟩ := Option.bind_eq_some_iff.mp first
  simp only [spring, vacant, Option.bind_some] at second
  obtain rfl := Option.some.inj first
  obtain rfl := Option.some.inj second
  exact ⟨_, _, only, rfl, rfl, .inl (Nat.lt_succ_self 2)⟩

theorem welling_resolves : ∃ rules certain dead, welling.compile = .ok rules ∧
    rules.reactions = [certain, dead] ∧ certain.pair = dead.pair ∧
    (∀ seed, (rules.tryReact certain.left certain.right (Xoshiro.ofSeed seed)).1.isSome = true) ∧
    ∀ left right seed,
      (RuleSet.ofRules rules.title rules.elements rules.registry [certain]
        rules.transitions).tryReact left right (Xoshiro.ofSeed seed) =
        rules.tryReact left right (Xoshiro.ofSeed seed) := by
  have compiles : Succeeds welling.compile := Declarations.compile_succeeds (by decide)
    ⟨by decide, by decide, by decide, by decide⟩ (by decide) (by decide)
  obtain ⟨rules, compiled⟩ := compiles
  obtain ⟨certain, dead, only, same, one, before⟩ := reactions_of_welling compiled
  have resolves := (Declarations.rules_resolve compiled).1
  have proper (seed : UInt64) : RandomSource.Proper (Xoshiro.ofSeed seed) :=
    (Xoshiro.fair _).proper
  have listed : certain ∈ RuleKind.reaction.listed rules := by
    simp [RuleKind.reaction, only]
  refine ⟨rules, certain, dead, compiled, only, same,
    fun seed => resolves.certain Xoshiro _ (proper seed) certain listed one,
    fun left right seed =>
      resolves.pruned (.ofRules _ _ _ [certain] _) ⟨?_, ?_⟩ Xoshiro (left, right) _ (proper seed)⟩
  · simp [RuleKind.reaction, RuleSet.ofRules, only]
  · intro rule given dropped
    simp only [RuleKind.reaction, RuleSet.ofRules, only, List.mem_cons, List.not_mem_nil,
      or_false] at given dropped
    obtain rfl := given.resolve_left dropped
    exact ⟨certain, listed, same, one, before⟩

end FallingSand
