import FallingSand.Proofs.Mod.Verdict
import Mathlib.Data.Multiset.Bind
import Mathlib.Data.Set.Finite.List

/-!
# Rules by names

A rule statement has one rule for each way to name the variables of its clauses such that the
tuples of the clauses follow.  Told by names, these are all rules that a mod has, each as often as
there are ways.  Neither the order in which tuples are found nor the order of the clauses has a part
in this.
-/

namespace FallingSand

/-! ## Ways to name variables -/

/-- The ways to name the variables of some clauses that meet all of them.  Other variables have the
empty name. -/
def Ways (entries : List Entry) (clauses : List Clause) : Set (String → String) :=
  {names | (∀ clause ∈ clauses,
      Follows entries clause.relation (clause.terms.map (Term.read names))) ∧
    ∀ name, ¬Bound clauses (.var name) → names name = ""}

open Classical in
/-- The members of a finite set, each of them once. -/
noncomputable def eachOnce {α : Type} (set : Set α) : Multiset α :=
  if finite : set.Finite then finite.toFinset.val else 0

theorem coe_eq_eachOnce {α : Type} {listed : List α} {set : Set α} (distinct : listed.Nodup)
    (all : ∀ item, item ∈ listed ↔ item ∈ set) : (listed : Multiset α) = eachOnce set := by
  have finite : set.Finite := (List.finite_toSet listed).subset fun item => (all item).mpr
  rw [eachOnce, dif_pos finite]
  refine (Multiset.Nodup.ext (Multiset.coe_nodup.mpr distinct) finite.toFinset.nodup).mpr ?_
  intro item
  rw [Multiset.mem_coe, all, Finset.mem_val, Set.Finite.mem_toFinset]

namespace Row

/-- The names that a row gives the variables. -/
def naming (row : Row) (declared : Declared) (name : String) : String :=
  ((row.find? name).map fun bound => declared.nameOf bound.element).getD ""

end Row

section Lists

variable {α β γ : Type}

theorem nodup_flatMap_cons {heads : List α} {tails : List (List α)} (distinct : heads.Nodup)
    (others : tails.Nodup) : (heads.flatMap fun head => tails.map (head :: ·)).Nodup := by
  rw [List.nodup_flatMap]
  constructor
  · intro head _
    exact others.map (List.cons_injective)
  · refine distinct.imp fun {first second} differ => ?_
    intro list one other
    obtain ⟨_, -, rfl⟩ := List.mem_map.mp one
    obtain ⟨_, -, same⟩ := List.mem_map.mp other
    exact differ (List.cons.inj same).1.symm

theorem map_filterMap_sublist {f : α → Option β} {key : β → γ} {other : α → γ} {items : List α}
    (agree : ∀ item ∈ items, ∀ result, f item = some result → key result = other item) :
    ((items.filterMap f).map key).Sublist (items.map other) := by
  induction items with
  | nil => exact .slnil
  | cons item items induction =>
      obtain ⟨here, later⟩ := List.forall_mem_cons.mp agree
      rw [List.filterMap_cons, List.map_cons]
      cases found : f item with
      | none => exact (induction later).cons _
      | some result =>
          rw [List.map_cons, here result found]
          exact (induction later).cons_cons _

end Lists

theorem Registry.nodup_combinations {registry : Registry} {key : List ElementId → List String}
    {patterns : List Pattern}
    (distinct : ∀ pattern ∈ patterns, ((registry.tuplesAt pattern.relation).map key).Nodup) :
    ((registry.combinations patterns).map
      (List.map fun membership => key membership.tuple)).Nodup := by
  induction patterns with
  | nil => exact List.nodup_singleton _
  | cons pattern patterns induction =>
      obtain ⟨here, later⟩ := List.forall_mem_cons.mp distinct
      have product := nodup_flatMap_cons here (induction later)
      rw [combinations, List.map_flatMap]
      rw [tuplesAt, List.map_map, List.flatMap_map] at product
      simpa only [List.map_map, Function.comp_def, List.map_cons] using product

/-! ## Rows are ways -/

theorem Row.covers_iff_of_mem_rows {registry : Registry} {patterns : List Pattern} {row : Row}
    (fits : ∀ pattern ∈ patterns, registry.Fits pattern) (listed : row ∈ registry.rows patterns)
    (name : String) :
    row.Covers (.var name) ↔ ∃ pattern ∈ patterns, .var name ∈ pattern.slots := by
  rw [Registry.rows_eq_combinations, List.mem_filterMap] at listed
  obtain ⟨combination, picked, success⟩ := listed
  have fit := Registry.fitting_of_mem_combinations fits picked
  rw [Row.covers_extendAll? fit success]
  exact or_iff_right Bool.false_ne_true

namespace Declared

variable {declared : Declared} {directives : List Directive} {entries : List Entry}

theorem resolvesUnder_of_matches {clauses : List Clause} {clause : Clause} {pattern : Pattern}
    (comes : declared.Matches clause pattern) (listed : clause ∈ clauses) :
    List.Forall₂ (declared.ResolvesUnder clauses) clause.terms pattern.slots := by
  have mentioned : ∀ term ∈ clause.terms, ∀ name, term = .var name →
      ∃ clause ∈ clauses, .var name ∈ clause.terms := by
    rintro _ inside name rfl
    exact ⟨clause, listed, inside⟩
  exact ((List.forall₂_and_left _ _).mpr ⟨mentioned, comes.slots⟩).imp fun _ _ both => both.symm

theorem bound_iff {clauses : List Clause} {patterns : List Pattern}
    (same : List.Forall₂ declared.Matches clauses patterns) (name : String) :
    Bound clauses (.var name) ↔ ∃ pattern ∈ patterns, .var name ∈ pattern.slots := by
  constructor
  · rintro ⟨clause, inside, mentioned⟩
    obtain ⟨pattern, listed, comes⟩ := exists_of_mem_left same inside
    obtain ⟨slot, filled, equal⟩ := exists_of_mem_left comes.slots mentioned
    exact ⟨pattern, listed, resolves_var.mp equal ▸ filled⟩
  · rintro ⟨pattern, listed, filled⟩
    obtain ⟨clause, inside, comes⟩ := exists_of_mem_right same listed
    obtain ⟨term, mentioned, equal⟩ := exists_of_mem_right comes.slots filled
    cases term with
    | element other =>
        obtain ⟨_, -, impossible⟩ := resolves_element equal
        cases impossible
    | var other =>
        cases resolves_var.mp equal
        exact ⟨clause, inside, mentioned⟩

section Closed

variable (gathered : Declared.ofEntries entries = .ok declared)
  (checked : declared.directives entries = .ok directives)

theorem distinct_closed (gathered : Declared.ofEntries entries = .ok declared)
    (directives : List Directive) (place : Nat) :
    ((declared.closed directives).tuplesAt place).Nodup := by
  have start : (declared.registry.withTemplates directives).Distinct := by
    intro place
    rw [Registry.tuplesAt_withTemplates, tuplesAt_of_gathered gathered]
    exact List.nodup_nil
  exact Registry.close_induction Registry.insertionKeeps_distinct directives _ start place

theorem map_nameOf_injective {first second : List ElementId}
    (one : ∀ id ∈ first, id.toNat < declared.catalog.size)
    (other : ∀ id ∈ second, id.toNat < declared.catalog.size)
    (same : first.map declared.nameOf = second.map declared.nameOf) : first = second := by
  have found {ids : List ElementId} (inside : ∀ id ∈ ids, id.toNat < declared.catalog.size) :
      (ids.map declared.nameOf).map declared.catalog.names.find? =
        (ids.map ElementId.toNat).map some := by
    rw [List.map_map, List.map_map]
    exact List.map_congr_left fun id listed => find?_nameOf (inside id listed)
  have places := (found one).symm.trans ((congrArg _ same).trans (found other))
  have numbers := (List.map_injective_iff.mpr (Option.some_injective Nat)) places
  exact (List.map_injective_iff.mpr fun _ _ => ElementId.toNat_injective) numbers

include gathered checked

/-- Different tuples have different names. -/
theorem nodup_names_closed (place : Nat) :
    (((declared.closed directives).tuplesAt place).map (List.map declared.nameOf)).Nodup := by
  have small := (within_closed gathered checked).tuples place
  refine (distinct_closed gathered directives place).map_on ?_
  intro first one second other same
  exact map_nameOf_injective (small first one).2 (small second other).2 same

section Rows

variable {entry : Entry} {directive : Directive} (directs : declared.Directs entry directive)

include directs

theorem covers_iff {row : Row} (listed : row ∈ (declared.closed directives).rows directive.patterns)
    (name : String) : row.Covers (.var name) ↔ Bound entry.clauses (.var name) := by
  rw [Row.covers_iff_of_mem_rows (fits_closed gathered checked directs) listed,
    bound_iff directs.patterns]

theorem naming_of_not_bound {row : Row}
    (listed : row ∈ (declared.closed directives).rows directive.patterns) {name : String}
    (unbound : ¬Bound entry.clauses (.var name)) : row.naming declared name = "" := by
  rw [← covers_iff gathered checked directs listed] at unbound
  have missing : row.find? name = none := by
    simpa [Row.Covers] using unbound
  simp [Row.naming, missing]

theorem read_naming {row : Row}
    (listed : row ∈ (declared.closed directives).rows directive.patterns)
    {term : Term} {slot : Slot} (resolves : declared.ResolvesUnder entry.clauses term slot) :
    declared.nameOf (slot.value row.solution) = term.read (row.naming declared) := by
  rw [nameOf_value resolves.1]
  cases term with
  | element name => rfl
  | var name =>
      have covered := (covers_iff gathered checked directs listed name).mpr (resolves.2 name rfl)
      obtain ⟨bound, found⟩ := Option.isSome_iff_exists.mp covered
      simp [Term.read, Row.naming, Row.solution, found]

theorem map_read_naming {row : Row}
    (listed : row ∈ (declared.closed directives).rows directive.patterns)
    {terms : List Term} {slots : List Slot}
    (resolves : List.Forall₂ (declared.ResolvesUnder entry.clauses) terms slots) :
    terms.map (Term.read (row.naming declared)) =
      (slots.map (Slot.value row.solution)).map declared.nameOf := by
  rw [List.map_map]
  exact map_eq_map_of_forall₂ resolves fun _ _ resolves =>
    (read_naming gathered checked directs listed resolves).symm

/-- The names that rows give are the ways to meet the clauses. -/
theorem mem_naming_iff (names : String → String) :
    names ∈ ((declared.closed directives).rows directive.patterns).map (·.naming declared) ↔
      names ∈ Ways entries entry.clauses := by
  have fits := fits_closed gathered checked directs
  constructor
  · intro given
    obtain ⟨row, listed, rfl⟩ := List.mem_map.mp given
    constructor
    · refine (metBy_iff gathered checked).mp fun clause inside => ?_
      obtain ⟨pattern, picked, comes⟩ := exists_of_mem_left directs.patterns inside
      have held := (Registry.held_of_mem_rows fits listed).1 pattern picked
      refine ⟨pattern.tuple row.solution, ?_, ?_⟩
      · exact Registry.mem_tuplesOf.mpr ⟨pattern.relation, names_closed ▸ comes.relation, held⟩
      · exact (map_read_naming gathered checked directs listed
          (resolvesUnder_of_matches comes inside)).symm
    · exact fun name => naming_of_not_bound gathered checked directs listed
  · rintro ⟨follows, others⟩
    have met := (metBy_iff gathered checked).mpr follows
    obtain ⟨row, listed, admits⟩ := exists_row_of_metBy gathered checked directs met
    refine List.mem_map.mpr ⟨row, listed, funext fun name => ?_⟩
    by_cases bound : Bound entry.clauses (.var name)
    · have covered := (covers_iff gathered checked directs listed name).mpr bound
      obtain ⟨standing, found⟩ := Option.isSome_iff_exists.mp covered
      have resolves : declared.ResolvesUnder entry.clauses (.var name) (.var name) :=
        ⟨resolves_var.mpr rfl, fun _ same => by cases same; exact bound⟩
      have named := read_identify gathered checked met resolves
      rw [Slot.value, admits name standing found] at named
      simpa [Row.naming, found, Term.read] using named
    · rw [naming_of_not_bound gathered checked directs listed bound, others name bound]

/-- Names tell the tuples that a row has picked. -/
theorem map_read_of_picked {combination : List Membership} {row : Row}
    (picked : combination ∈ (declared.closed directives).combinations directive.patterns)
    (success : Row.empty.extendAll? directive.patterns combination = some row) :
    entry.clauses.map (fun clause => clause.terms.map (Term.read (row.naming declared))) =
      combination.map fun membership => membership.tuple.map declared.nameOf := by
  have fits := fits_closed gathered checked directs
  have fit := Registry.fitting_of_mem_combinations fits picked
  have meets := ((Row.admits_extendAll? fit success).mp row.admits_solution).2
  have listed : row ∈ (declared.closed directives).rows directive.patterns := by
    rw [Registry.rows_eq_combinations]
    exact List.mem_filterMap.mpr ⟨combination, picked, success⟩
  have same : List.Forall₂ (fun clause pattern => clause ∈ entry.clauses ∧
      declared.Matches clause pattern) entry.clauses directive.patterns :=
    (List.forall₂_and_left _ _).mpr ⟨fun _ inside => inside, directs.patterns⟩
  calc
    _ = directive.patterns.map fun pattern =>
          (pattern.tuple row.solution).map declared.nameOf :=
        map_eq_map_of_forall₂ same fun clause pattern ⟨inside, comes⟩ =>
          map_read_naming gathered checked directs listed (resolvesUnder_of_matches comes inside)
    _ = _ := map_eq_map_of_forall₂ meets fun _ _ meet => congrArg _ meet

/-- No two rows give the same names. -/
theorem nodup_naming :
    (((declared.closed directives).rows directive.patterns).map (·.naming declared)).Nodup := by
  apply List.Nodup.of_map fun names : String → String =>
    entry.clauses.map fun clause => clause.terms.map (Term.read names)
  rw [Registry.rows_eq_combinations, List.map_map]
  have distinct := Registry.nodup_combinations fun pattern (_ : pattern ∈ directive.patterns) =>
    nodup_names_closed gathered checked pattern.relation
  exact distinct.sublist (map_filterMap_sublist fun combination picked row success =>
    map_read_of_picked gathered checked directs picked success)

/-- The rows are the ways to meet the clauses, each of them once. -/
theorem coe_naming :
    (((declared.closed directives).rows directive.patterns).map (·.naming declared) :
      Multiset (String → String)) = eachOnce (Ways entries entry.clauses) :=
  coe_eq_eachOnce (nodup_naming gathered checked directs) (mem_naming_iff gathered checked directs)

end Rows
end Closed
end Declared

/-! ## Rules by names -/

/-- The two kinds of rules. -/
inductive Kind where
  /-- Two elements beside each other. -/
  | reaction
  /-- One element by itself. -/
  | transition

namespace Kind

/-- The probability in a statement of the kind. -/
def stated : Kind → Statement → Option Single
  | reaction, .reaction probability _ _ _ _ => some probability
  | transition, .transition probability _ _ => some probability
  | _, _ => none

/-- The probability and the elements of a consequence of the kind. -/
def listed : Kind → Consequence → Option (Single × List ElementId)
  | reaction, .reaction rule =>
      some (rule.probability, [rule.left, rule.right, rule.outLeft, rule.outRight])
  | transition, .transition rule => some (rule.probability, [rule.element, rule.target])
  | _, _ => none

/-- The rules of the kind in a rule set. -/
def rules : Kind → RuleSet → List (Single × List ElementId)
  | reaction, rules => rules.reactions.map fun rule =>
      (rule.probability, [rule.left, rule.right, rule.outLeft, rule.outRight])
  | transition, rules => rules.transitions.map fun rule =>
      (rule.probability, [rule.element, rule.target])

end Kind

/-- A rule by its probability and the names of its elements. -/
def named (nameOf : ElementId → String) (rule : Single × List ElementId) : Single × List String :=
  (rule.1, rule.2.map nameOf)

/-- The rules of a kind that an entry stands for. -/
noncomputable def Entry.rules (entries : List Entry) (kind : Kind) (entry : Entry) :
    Multiset (Single × List String) :=
  match kind.stated entry.statement with
  | some probability =>
      (eachOnce (Ways entries entry.clauses)).map fun names =>
        (probability, entry.statement.terms.map (Term.read names))
  | none => 0

theorem Entry.rules_of_isSilent (entries : List Entry) (kind : Kind) {entry : Entry}
    (silent : entry.statement.isSilent = true) : entry.rules entries kind = 0 := by
  have unstated : kind.stated entry.statement = none := by
    cases kind <;> cases statement : entry.statement <;>
      simp [statement, Statement.isSilent, Kind.stated] at silent ⊢
  rw [Entry.rules, unstated]

namespace Declared

variable {declared : Declared} {directives : List Directive} {entries : List Entry}

/-- A statement of a kind has a consequence of that kind for every row. -/
theorem listed_consequence? (kind : Kind) {entry : Entry} {directive : Directive}
    (directs : declared.Directs entry directive) {row : Row} (place : Nat)
    (covered : ∀ slot ∈ directive.action.slots, row.Covers slot) :
    (directive.consequence? place row).bind kind.listed =
      (kind.stated entry.statement).map fun probability =>
        (probability, directive.action.slots.map (Slot.value row.solution)) := by
  have acts := directs.acts
  have read : ∀ slot ∈ directive.action.slots,
      row.element? slot = some (slot.value row.solution) :=
    fun slot filled => Row.element?_eq_value row.admits_solution (covered slot filled)
  rw [Directive.consequence?]
  generalize entry.statement = statement at acts
  generalize directive.action = action at acts read
  simp only [Action.slots] at read
  cases acts with
  | reaction | transition =>
      simp only [List.forall_mem_cons] at read
      cases kind <;> simp [read, Kind.listed, Kind.stated, Action.slots]
  | _ => cases kind <;> simp [Kind.listed, Kind.stated, Option.bind_map]

theorem rules_ruleSet (kind : Kind) :
    kind.rules (declared.ruleSet directives) =
      (declared.consequences directives).filterMap kind.listed := by
  cases kind with
  | reaction | transition =>
      rw [Kind.rules, ruleSet, RuleSet.ofRules, List.map_filterMap]
      refine List.filterMap_congr fun consequence _ => ?_
      cases consequence <;> rfl

/-- What directives give altogether is what their entries give. -/
theorem coe_directives {α : Type} {numbered : List (Entry × Nat)}
    {checked : List (Option Directive)} (yields : List.Forall₂ declared.Yields numbered checked)
    {given : Directive → List α} {expected : Entry → Multiset α}
    (silent : ∀ entry : Entry, entry.statement.isSilent = true → expected entry = 0)
    (agree : ∀ entry directive, declared.Directs entry directive →
      (given directive : Multiset α) = expected entry) :
    ((checked.filterMap id).flatMap given : Multiset α) =
      (numbered.map (expected ∘ Prod.fst)).sum := by
  induction yields with
  | nil => rfl
  | cons first _ induction =>
      rw [List.map_cons, List.sum_cons, ← induction]
      cases first with
      | silent quiet => simp [silent _ quiet]
      | directive directs => simp [← agree _ _ directs]

section Closed

variable (gathered : Declared.ofEntries entries = .ok declared)
  (checked : declared.directives entries = .ok directives)

include gathered checked

/-- The rules of a kind that a directive has are those that its entry stands for. -/
theorem coe_listed (kind : Kind) {entry : Entry} {directive : Directive}
    (directs : declared.Directs entry directive) :
    ((((directive.consequences (declared.closed directives)).filterMap kind.listed).map
        (named declared.nameOf) : List (Single × List String)) :
          Multiset (Single × List String)) = entry.rules entries kind := by
  have each : ∀ numbered ∈ ((declared.closed directives).rows directive.patterns).zipIdx,
      (directive.consequence? numbered.2 numbered.1).bind kind.listed =
        (kind.stated entry.statement).map fun probability =>
          (probability, directive.action.slots.map (Slot.value numbered.1.solution)) := by
    intro numbered among
    have fills := fills_closed gathered checked
    have licenses := fills.licenses directs (List.fst_mem_of_mem_zipIdx among)
    exact listed_consequence? kind directs numbered.2 licenses.slots
  rw [Directive.consequences, List.filterMap_filterMap, List.filterMap_congr each, Entry.rules]
  cases kind.stated entry.statement with
  | none => simp
  | some probability =>
      rw [← coe_naming gathered checked directs]
      simp only [Option.map_some, List.filterMap_eq_map', List.map_map, Multiset.map_coe]
      let rows := (declared.closed directives).rows directive.patterns
      let instanceOf (row : Row) : Single × List String :=
        (probability, (directive.action.slots.map (Slot.value row.solution)).map declared.nameOf)
      have numbers : rows.zipIdx.map (instanceOf ∘ Prod.fst) = rows.map instanceOf := by
        rw [← List.map_map, List.zipIdx_map_fst]
      refine congrArg _ (numbers.trans (List.map_congr_left fun row listed => ?_))
      exact congrArg (probability, ·)
        (map_read_naming gathered checked directs listed directs.slots).symm

theorem lt_of_listed (kind : Kind) {rule : Single × List ElementId}
    (given : rule ∈ (declared.consequences directives).filterMap kind.listed) :
    ∀ id ∈ rule.2, id.toNat < declared.catalog.size := by
  obtain ⟨consequence, among, success⟩ := List.mem_filterMap.mp given
  cases kind <;> cases consequence <;> cases success
  · exact (reaction_sound gathered checked among).2
  · exact (transition_sound gathered checked among).2

/-- The rules of a kind that a mod has are those that its entries stand for. -/
theorem coe_rules (kind : Kind) :
    (((kind.rules (declared.ruleSet directives)).map
        (named (declared.ruleSet directives).elements.nameOf) : List (Single × List String)) :
          Multiset (Single × List String)) = (entries.map (Entry.rules entries kind)).sum := by
  have same : (kind.rules (declared.ruleSet directives)).map
        (named (declared.ruleSet directives).elements.nameOf) =
      ((declared.consequences directives).filterMap kind.listed).map (named declared.nameOf) := by
    rw [rules_ruleSet]
    refine List.map_congr_left fun rule given => congrArg (rule.1, ·) ?_
    refine List.map_congr_left fun id inside => ?_
    exact nameOf_ruleSet (lt_of_listed gathered checked kind given id inside)
  have each (entry : Entry) (directive : Directive) (directs : declared.Directs entry directive) :=
    coe_listed gathered checked kind directs
  obtain ⟨results, yields, rfl⟩ := yields_of_directives checked
  have numbered : entries.zipIdx.map (Entry.rules entries kind ∘ Prod.fst) =
      entries.map (Entry.rules entries kind) := by
    rw [← List.map_map, List.zipIdx_map_fst]
  rw [same, consequences, List.filterMap_flatMap, List.map_flatMap, ← numbered]
  exact coe_directives yields (fun entry => entry.rules_of_isSilent entries kind) each

end Closed
end Declared

end FallingSand
