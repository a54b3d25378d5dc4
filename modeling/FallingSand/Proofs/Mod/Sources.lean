import FallingSand.Proofs.Mod.Rules

/-!
# The order of the rules

A rule has the statement and the row that it comes from as its source.  In a compiled mod both kinds
of rules are listed in the order of their sources, and no two of a kind have the same one.
-/

namespace FallingSand

namespace RuleSource

/-- It comes first: from an earlier statement, or from an earlier row of the same one. -/
def Precedes (first second : RuleSource) : Prop :=
  first.statement < second.statement ∨
    first.statement = second.statement ∧ first.row < second.row

theorem Precedes.asymm {first second : RuleSource} (before : first.Precedes second) :
    ¬second.Precedes first := by
  rw [Precedes] at before ⊢
  omega

end RuleSource

/-- The source of a consequence, if this is a rule. -/
def Consequence.source? : Consequence → Option RuleSource
  | .reaction rule => some rule.source
  | .transition rule => some rule.source
  | _ => none

namespace Directive

variable {directive : Directive} {registry : Registry} {row : Row} {place : Nat}
  {consequence : Consequence} {source : RuleSource}

/-- The source of a rule tells its directive and the place of its row. -/
theorem source_of_consequence? (success : directive.consequence? place row = some consequence)
    (sourced : consequence.source? = some source) : source = ⟨directive.ordinal, place⟩ := by
  rw [consequence?] at success
  split at success
  case h_1 => cases success
  case h_6 | h_7 =>
    split at success
    · cases success
      exact (Option.some.inj sourced).symm
    · cases success
  all_goals
    obtain ⟨_, -, rfl⟩ := Option.map_eq_some_iff.mp success
    cases sourced

theorem statement_of_mem_consequences (listed : consequence ∈ directive.consequences registry)
    (sourced : consequence.source? = some source) : source.statement = directive.ordinal := by
  obtain ⟨row, -, place, success⟩ := exists_row_of_mem_consequences listed
  rw [source_of_consequence? success sourced]

/-- The rules of one directive are listed in the order of their rows. -/
theorem pairwise_consequences (directive : Directive) (registry : Registry) :
    (directive.consequences registry).Pairwise fun first second =>
      ∀ one ∈ first.source?, ∀ other ∈ second.source?, one.Precedes other := by
  have places : ((registry.rows directive.patterns).zipIdx.map Prod.snd).Pairwise (· < ·) :=
    List.zipIdx_map_snd 0 _ ▸ List.pairwise_lt_range'
  refine (List.pairwise_map.mp places).filterMap _ ?_
  intro earlier later before first success second successor one sourced other sourcedOther
  obtain rfl := source_of_consequence? success sourced
  obtain rfl := source_of_consequence? successor sourcedOther
  exact .inr ⟨rfl, before⟩

end Directive

namespace Declared

variable {declared : Declared} {directives : List Directive} {entries : List Entry}

/-- Rules of an earlier directive precede those of a later one. -/
theorem pairwise_consequences (checked : declared.directives entries = .ok directives) :
    (declared.consequences directives).Pairwise fun first second =>
      ∀ one ∈ first.source?, ∀ other ∈ second.source?, one.Precedes other := by
  rw [consequences, List.pairwise_flatMap]
  refine ⟨fun directive _ => directive.pairwise_consequences _, ?_⟩
  refine (pairwise_ordinal checked).imp fun before first listed second other => ?_
  intro one sourced next sourcedNext
  rw [RuleSource.Precedes, Directive.statement_of_mem_consequences listed sourced,
    Directive.statement_of_mem_consequences other sourcedNext]
  exact .inl before

/-- Whichever kind of rules is picked out, they are listed in the order of their sources. -/
theorem pairwise_rules (checked : declared.directives entries = .ok directives) {α : Type}
    {rule? : Consequence → Option α} {origin : α → RuleSource}
    (sourced : ∀ consequence rule, rule? consequence = some rule →
      consequence.source? = some (origin rule)) :
    ((declared.consequences directives).filterMap rule?).Pairwise fun first second =>
      (origin first).Precedes (origin second) :=
  (pairwise_consequences checked).filterMap _ fun _ _ before _ one _ other =>
    before _ (sourced _ _ one) _ (sourced _ _ other)

end Declared

namespace Declarations

variable {declarations : Declarations} {rules : RuleSet}

/-- The reactions of a compiled mod are listed in the order of their sources. -/
theorem pairwise_reactions (compiled : declarations.compile = .ok rules) :
    rules.reactions.Pairwise fun first second => first.source.Precedes second.source := by
  obtain ⟨declared, directives, -, checked, -, rfl⟩ := compile_eq_ok_iff.mp compiled
  refine Declared.pairwise_rules checked ?_
  rintro (_ | _) _ ⟨⟩
  rfl

/-- The transitions of a compiled mod are listed in the order of their sources. -/
theorem pairwise_transitions (compiled : declarations.compile = .ok rules) :
    rules.transitions.Pairwise fun first second => first.source.Precedes second.source := by
  obtain ⟨declared, directives, -, checked, -, rfl⟩ := compile_eq_ok_iff.mp compiled
  refine Declared.pairwise_rules checked ?_
  rintro (_ | _) _ ⟨⟩
  rfl

end Declarations
end FallingSand
