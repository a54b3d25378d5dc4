import FallingSand.Proofs.Mod.Instances

/-!
# The rules of a mod

The rules of a compiled mod are exactly those that its rule statements stand for, in the order of
the statements and then of their instances.  All of them are possible, start from an occupied cell
and lead to elements that there are.
-/

namespace FallingSand

/-! ## Consequences and instances -/

section Lists

variable {α β γ : Type} {R : α → β → Prop} {items : List α} {others : List β}

theorem forall₂_zipIdx (related : List.Forall₂ R items others) (start : Nat) :
    List.Forall₂ (fun first second => R first.1 second.1 ∧ first.2 = second.2)
      (items.zipIdx start) (others.zipIdx start) := by
  induction related generalizing start with
  | nil => exact .nil
  | cons first _ ih => exact .cons ⟨first, rfl⟩ (ih (start + 1))

theorem map_some_filterMap {f : α → Option γ} {g : β → Option γ}
    (related : List.Forall₂ (fun item other => ∃ result, f item = some result ∧
      g other = some result) items others) :
    (items.filterMap f).map some = others.map g := by
  induction related with
  | nil => rfl
  | cons first _ ih =>
      obtain ⟨result, one, other⟩ := first
      simp [one, other, ih]

end Lists

section Entries

variable {declared : Declared} {rules : RuleSet} {entry : Entry} {directive : Directive}

/-- A directive has the reactions that its entry stands for. -/
theorem reactions_of_directs (directs : declared.Directs entry directive)
    (related : List.Forall₂ (Row.Reads declared rules.elements entry.clauses)
      (rules.registry.rows directive.patterns) (rules.instances entry.clauses)) :
    ((directive.consequences rules.registry).filterMap Consequence.reaction?).map some =
      rules.reactionsOf entry directive.ordinal := by
  have acts := directs.acts
  have slots := directs.slots
  rw [Directive.consequences, List.filterMap_filterMap, RuleSet.reactionsOf]
  generalize entry.statement = statement at acts slots
  generalize action : directive.action = standing at acts slots
  cases acts with
  | @reaction probability =>
      obtain _ | ⟨first, _ | ⟨second, _ | ⟨third, _ | ⟨fourth, _⟩⟩⟩⟩ := slots
      refine map_some_filterMap ((forall₂_zipIdx related 0).imp ?_)
      rintro ⟨row, place⟩ ⟨met, _⟩ ⟨reads, rfl⟩
      obtain ⟨left, leftRow, leftMet⟩ := reads _ _ first
      obtain ⟨right, rightRow, rightMet⟩ := reads _ _ second
      obtain ⟨outLeft, outLeftRow, outLeftMet⟩ := reads _ _ third
      obtain ⟨outRight, outRightRow, outRightMet⟩ := reads _ _ fourth
      refine ⟨⟨probability, left, right, outLeft, outRight, ⟨directive.ordinal, place⟩⟩, ?_, ?_⟩
      · simp [Directive.consequence?, action, leftRow, rightRow, outLeftRow, outRightRow,
          Consequence.reaction?]
      · simp [leftMet, rightMet, outLeftMet, outRightMet]
  | transition =>
      have inert (place : Nat) (row : Row) :
          (directive.consequence? place row).bind Consequence.reaction? = none := by
        rw [Directive.consequence?, action]
        dsimp only
        split <;> rfl
      simp [inert]
  | _ => simp [Directive.consequence?, action, Consequence.reaction?, Option.bind_map]

/-- A directive has the transitions that its entry stands for. -/
theorem transitions_of_directs (directs : declared.Directs entry directive)
    (related : List.Forall₂ (Row.Reads declared rules.elements entry.clauses)
      (rules.registry.rows directive.patterns) (rules.instances entry.clauses)) :
    ((directive.consequences rules.registry).filterMap Consequence.transition?).map some =
      rules.transitionsOf entry directive.ordinal := by
  have acts := directs.acts
  have slots := directs.slots
  rw [Directive.consequences, List.filterMap_filterMap, RuleSet.transitionsOf]
  generalize entry.statement = statement at acts slots
  generalize action : directive.action = standing at acts slots
  cases acts with
  | @transition probability =>
      obtain _ | ⟨first, _ | ⟨second, _⟩⟩ := slots
      refine map_some_filterMap ((forall₂_zipIdx related 0).imp ?_)
      rintro ⟨row, place⟩ ⟨met, _⟩ ⟨reads, rfl⟩
      obtain ⟨element, elementRow, elementMet⟩ := reads _ _ first
      obtain ⟨target, targetRow, targetMet⟩ := reads _ _ second
      refine ⟨⟨probability, element, target, ⟨directive.ordinal, place⟩⟩, ?_, ?_⟩
      · simp [Directive.consequence?, action, elementRow, targetRow, Consequence.transition?]
      · simp [elementMet, targetMet]
  | reaction =>
      have inert (place : Nat) (row : Row) :
          (directive.consequence? place row).bind Consequence.transition? = none := by
        rw [Directive.consequence?, action]
        dsimp only
        split <;> rfl
      simp [inert]
  | _ => simp [Directive.consequence?, action, Consequence.transition?, Option.bind_map]

/-- What the directives of a mod give in order, its entries give in order. -/
theorem flatMap_directives {α : Type} {numbered : List (Entry × Nat)}
    {checked : List (Option Directive)} (yields : List.Forall₂ declared.Yields numbered checked)
    {given : Directive → List α} {expected : Entry → Nat → List α}
    (silent : ∀ entry ordinal, entry.statement.isSilent = true → expected entry ordinal = [])
    (agree : ∀ entry directive, declared.Directs entry directive →
      given directive = expected entry directive.ordinal) :
    (checked.filterMap id).flatMap given =
      numbered.flatMap fun (entry, ordinal) => expected entry ordinal := by
  induction yields with
  | nil => rfl
  | cons first _ ih =>
      rw [List.flatMap_cons, ← ih]
      cases first with
      | silent quiet => simp [silent _ _ quiet]
      | directive directs => simp [agree _ _ directs]

end Entries

/-! ## Rules and the elements that there are -/

namespace Directive

variable {directive : Directive} {registry : Registry} {row : Row} {place : Nat}

theorem element?_lt {shape : Shape} (wellFormed : directive.WellFormed shape)
    (within : registry.Within shape shape.tuples) (listed : row ∈ registry.rows directive.patterns)
    {slot : Slot} (filled : slot ∈ directive.action.slots) {id : ElementId}
    (found : row.element? slot = some id) : id.toNat < shape.elements := by
  have licenses := licenses_of_mem_rows wellFormed (fun _ => subset_rfl) within listed
  have value := Row.element?_eq_value row.admits_solution (licenses.slots slot filled)
  obtain rfl := Option.some.inj (found.symm.trans value)
  exact Declared.value_lt_of_knows (wellFormed.slots slot filled) licenses.tuples

theorem consequence?_reaction {reaction : Reaction}
    (success : directive.consequence? place row = some (.reaction reaction)) :
    ∃ left right outLeft outRight,
      directive.action = .reaction reaction.probability left right outLeft outRight ∧
      row.element? left = some reaction.left ∧ row.element? right = some reaction.right ∧
      row.element? outLeft = some reaction.outLeft ∧
      row.element? outRight = some reaction.outRight := by
  rw [consequence?] at success
  split at success
  case h_6 probability left right outLeft outRight action =>
    split at success
    · cases success
      exact ⟨left, right, outLeft, outRight, action, ‹_›, ‹_›, ‹_›, ‹_›⟩
    · cases success
  case h_7 => split at success <;> cases success
  case h_1 => cases success
  all_goals
    obtain ⟨_, -, different⟩ := Option.map_eq_some_iff.mp success
    cases different

theorem consequence?_transition {transition : Transition}
    (success : directive.consequence? place row = some (.transition transition)) :
    ∃ source target, directive.action = .transition transition.probability source target ∧
      row.element? source = some transition.element ∧
      row.element? target = some transition.target := by
  rw [consequence?] at success
  split at success
  case h_6 => split at success <;> cases success
  case h_7 probability source target action =>
    split at success
    · cases success
      exact ⟨source, target, action, ‹_›, ‹_›⟩
    · cases success
  case h_1 => cases success
  all_goals
    obtain ⟨_, -, different⟩ := Option.map_eq_some_iff.mp success
    cases different

theorem exists_row_of_mem_consequences {consequence : Consequence}
    (listed : consequence ∈ directive.consequences registry) :
    ∃ row ∈ registry.rows directive.patterns, ∃ place,
      directive.consequence? place row = some consequence := by
  obtain ⟨⟨row, place⟩, numbered, success⟩ := List.mem_filterMap.mp listed
  exact ⟨row, List.fst_mem_of_mem_zipIdx numbered, place, success⟩

theorem mem_consequences_of_row {consequence : Consequence}
    (listed : row ∈ registry.rows directive.patterns)
    (success : ∀ place, directive.consequence? place row = some consequence) :
    consequence ∈ directive.consequences registry := by
  obtain ⟨place, stands⟩ := List.getElem?_of_mem listed
  exact List.mem_filterMap.mpr
    ⟨(row, place), List.mk_mem_zipIdx_iff_getElem?.mpr stands, success place⟩

end Directive

namespace Declared

variable {declared : Declared} {directives : List Directive} {entries : List Entry}

theorem mem_reactions {reaction : Reaction} :
    reaction ∈ (declared.ruleSet directives).reactions ↔
      .reaction reaction ∈ declared.consequences directives := by
  simp only [ruleSet, RuleSet.ofRules, List.mem_filterMap]
  constructor
  · rintro ⟨consequence, listed, same⟩
    cases consequence with
    | reaction rule => exact Option.some.inj same ▸ listed
    | _ => cases same
  · exact fun listed => ⟨_, listed, rfl⟩

theorem mem_transitions {transition : Transition} :
    transition ∈ (declared.ruleSet directives).transitions ↔
      .transition transition ∈ declared.consequences directives := by
  simp only [ruleSet, RuleSet.ofRules, List.mem_filterMap]
  constructor
  · rintro ⟨consequence, listed, same⟩
    cases consequence with
    | transition rule => exact Option.some.inj same ▸ listed
    | _ => cases same
  · exact fun listed => ⟨_, listed, rfl⟩

/-- Every consequence comes from an entry through its directive and a row, which leads to elements
that there are. -/
theorem exists_source (gathered : Declared.ofEntries entries = .ok declared)
    (checked : declared.directives entries = .ok directives) {consequence : Consequence}
    (listed : consequence ∈ declared.consequences directives) :
    ∃ entry ∈ entries, ∃ directive row place, declared.Directs entry directive ∧
      directive.consequence? place row = some consequence ∧
      ∀ slot ∈ directive.action.slots, ∀ id, row.element? slot = some id →
        id.toNat < declared.catalog.size := by
  obtain ⟨directive, given, listed⟩ := List.mem_flatMap.mp listed
  obtain ⟨row, inside, place, success⟩ := Directive.exists_row_of_mem_consequences listed
  obtain ⟨entry, standing, directs⟩ := exists_entry checked given
  refine ⟨entry, standing, directive, row, place, directs, success, fun slot filled id found => ?_⟩
  exact Directive.element?_lt (wellFormed_of_directs directs) (within_closed gathered checked)
    inside filled found

theorem reaction_sound (gathered : Declared.ofEntries entries = .ok declared)
    (checked : declared.directives entries = .ok directives) {reaction : Reaction}
    (listed : .reaction reaction ∈ declared.consequences directives) :
    Possible reaction.probability ∧
      ∀ id ∈ [reaction.left, reaction.right, reaction.outLeft, reaction.outRight],
        id.toNat < declared.catalog.size := by
  obtain ⟨entry, -, directive, row, place, directs, success, small⟩ :=
    exists_source gathered checked listed
  obtain ⟨left, right, outLeft, outRight, action, found⟩ := Directive.consequence?_reaction success
  have acts := directs.acts
  rw [action] at acts small
  simp only [Action.slots, List.forall_mem_cons, List.not_mem_nil, false_implies, implies_true,
    and_true] at small ⊢
  generalize entry.statement = statement at acts
  cases acts with
  | reaction possible =>
      exact ⟨possible, small.1 _ found.1, small.2.1 _ found.2.1, small.2.2.1 _ found.2.2.1,
        small.2.2.2 _ found.2.2.2⟩

theorem transition_sound (gathered : Declared.ofEntries entries = .ok declared)
    (checked : declared.directives entries = .ok directives) {transition : Transition}
    (listed : .transition transition ∈ declared.consequences directives) :
    Possible transition.probability ∧
      ∀ id ∈ [transition.element, transition.target], id.toNat < declared.catalog.size := by
  obtain ⟨entry, -, directive, row, place, directs, success, small⟩ :=
    exists_source gathered checked listed
  obtain ⟨source, target, action, found⟩ := Directive.consequence?_transition success
  have acts := directs.acts
  rw [action] at acts small
  simp only [Action.slots, List.forall_mem_cons, List.not_mem_nil, false_implies, implies_true,
    and_true] at small ⊢
  generalize entry.statement = statement at acts
  cases acts with
  | transition possible => exact ⟨possible, small.1 _ found.1, small.2 _ found.2⟩

theorem forall₂_rows_ruleSet (gathered : Declared.ofEntries entries = .ok declared)
    (checked : declared.directives entries = .ok directives) {entry : Entry}
    {directive : Directive} (directs : declared.Directs entry directive) :
    List.Forall₂ (Row.Reads declared (declared.ruleSet directives).elements entry.clauses)
      ((declared.ruleSet directives).registry.rows directive.patterns)
      ((declared.ruleSet directives).instances entry.clauses) := by
  refine forall₂_rows directs.patterns names_closed ?_ fun _ name => idOf?_ruleSet name
  exact Directive.fits_of_within (wellFormed_of_directs directs) (fun _ => subset_rfl)
    (within_closed gathered checked)

theorem map_some_reactions (gathered : Declared.ofEntries entries = .ok declared)
    (checked : declared.directives entries = .ok directives) :
    (declared.ruleSet directives).reactions.map some =
      entries.zipIdx.flatMap fun (entry, ordinal) =>
        (declared.ruleSet directives).reactionsOf entry ordinal := by
  obtain ⟨results, yields, rfl⟩ := yields_of_directives checked
  refine Eq.trans ?_ (flatMap_directives yields ?_ fun entry directive directs =>
    reactions_of_directs directs (forall₂_rows_ruleSet gathered checked directs))
  · simp only [ruleSet, RuleSet.ofRules, consequences, List.filterMap_flatMap, List.map_flatMap]
  · intro entry ordinal silent
    rw [RuleSet.reactionsOf]
    split
    · simp [*, Statement.isSilent] at silent
    · rfl

theorem map_some_transitions (gathered : Declared.ofEntries entries = .ok declared)
    (checked : declared.directives entries = .ok directives) :
    (declared.ruleSet directives).transitions.map some =
      entries.zipIdx.flatMap fun (entry, ordinal) =>
        (declared.ruleSet directives).transitionsOf entry ordinal := by
  obtain ⟨results, yields, rfl⟩ := yields_of_directives checked
  refine Eq.trans ?_ (flatMap_directives yields ?_ fun entry directive directs =>
    transitions_of_directs directs (forall₂_rows_ruleSet gathered checked directs))
  · simp only [ruleSet, RuleSet.ofRules, consequences, List.filterMap_flatMap, List.map_flatMap]
  · intro entry ordinal silent
    rw [RuleSet.transitionsOf]
    split
    · simp [*, Statement.isSilent] at silent
    · rfl

end Declared

/-! ## Mods that compile -/

/-- A rule starts from an element that it names. -/
def Statement.StartsNamed : Statement → Prop
  | .reaction _ left _ _ _ => left.var? = none
  | .transition _ source _ => source.var? = none
  | _ => True

instance : DecidablePred Statement.StartsNamed
  | .reaction _ _ _ _ _ | .transition _ _ _ => inferInstanceAs (Decidable (_ = none))
  | .title _ | .element _ _ | .relation _ _ | .member _ _ | .property _ _ _ => isTrue trivial
  | .tag _ _ | .name _ _ | .description _ _ | .block _ _ => isTrue trivial

namespace Declared

variable {declared : Declared} {directives : List Directive} {entries : List Entry}

/-- A named element other than `Empty` is not the element of an unoccupied cell. -/
theorem ne_empty_of_resolves (gathered : Declared.ofEntries entries = .ok declared) {term : Term}
    {slot : Slot} (resolves : declared.Resolves term slot) (named : term.var? = none)
    (different : term ≠ .element emptyName) {row : Row} {id : ElementId}
    (found : row.element? slot = some id) : id ≠ ElementId.empty := by
  cases term with
  | var name => cases named
  | element name =>
      obtain ⟨place, stands, rfl⟩ := resolves_element resolves
      obtain rfl := Option.some.inj found
      intro empty
      -- identifiers are places cut off at sixteen bits, which changes no place in the roster
      have inside : place < 65536 :=
        Nat.lt_of_lt_of_le (Roster.find?_lt stands) declared.catalog.size_le
      have first : place = 0 := by
        have same := congrArg ElementId.toNat empty
        simpa [ElementId.toNat, ElementId.empty, UInt16.toNat_ofNat_of_lt' inside] using same
      rw [Roster.find?_eq_some_iff, ← Array.getElem?_toList, (lists_of_gathered gathered).elements,
        first] at stands
      exact different (congrArg _ (Option.some.inj stands).symm)

end Declared

theorem Declarations.compile_succeeds {declarations : Declarations}
    (top : ∀ entry ∈ declarations.entries, entry.declares = true → entry.clauses = [])
    (sound : (Vocabulary.initial.extend declarations.entries).Sound)
    (fits : ∀ entry ∈ declarations.entries,
      (Vocabulary.initial.extend declarations.entries).FitsEntry entry)
    (named : ∀ entry ∈ declarations.entries, entry.statement.StartsNamed) :
    Succeeds declarations.compile := by
  obtain ⟨declared, gathered⟩ := Declared.ofEntries_succeeds_iff.mpr ⟨top, sound⟩
  obtain ⟨directives, checked⟩ :=
    (Declared.directives_succeeds_iff (Declared.lists_of_gathered gathered)).mpr fits
  refine ⟨_, compile_eq_ok_iff.mpr ⟨declared, directives, gathered, checked, ?_, rfl⟩⟩
  intro consequence listed
  obtain ⟨entry, inside, directive, row, place, directs, success, -⟩ :=
    Declared.exists_source gathered checked listed
  have statement := (fits entry inside).2.1
  have starts := named entry inside
  have acts := directs.acts
  have slots := directs.slots
  cases consequence with
  | reaction rule =>
      obtain ⟨_, _, _, _, action, found, -⟩ := Directive.consequence?_reaction success
      rw [action] at acts slots
      generalize entry.statement = standing at acts slots statement starts
      cases acts with
      | reaction =>
          obtain _ | ⟨first, -⟩ := slots
          have occupied := Declared.ne_empty_of_resolves gathered first.1 starts statement.2 found
          simpa [Consequence.startsFromEmpty, ElementId.isEmpty] using occupied
  | transition rule =>
      obtain ⟨_, _, action, found, -⟩ := Directive.consequence?_transition success
      rw [action] at acts slots
      generalize entry.statement = standing at acts slots statement starts
      cases acts with
      | transition =>
          obtain _ | ⟨first, -⟩ := slots
          have occupied := Declared.ne_empty_of_resolves gathered first.1 starts statement.2 found
          simpa [Consequence.startsFromEmpty, ElementId.isEmpty] using occupied
  | _ => rfl

/-! ## The rules of a compiled mod -/

/-- No reaction of a compiled mod starts from an unoccupied cell. -/
theorem Declarations.left_ne_empty {declarations : Declarations} {rules : RuleSet}
    (compiled : declarations.compile = .ok rules) {reaction : Reaction}
    (given : reaction ∈ rules.reactions) : reaction.left ≠ ElementId.empty := by
  obtain ⟨declared, directives, -, -, occupied, rfl⟩ := compile_eq_ok_iff.mp compiled
  intro empty
  have starts := occupied _ (Declared.mem_reactions.mp given)
  simp [Consequence.startsFromEmpty, empty, ElementId.isEmpty] at starts

/-- No transition of a compiled mod starts from an unoccupied cell. -/
theorem Declarations.occupied_of_transition {declarations : Declarations} {rules : RuleSet}
    (compiled : declarations.compile = .ok rules) {transition : Transition}
    (given : transition ∈ rules.transitions) : transition.element.isEmpty = false := by
  obtain ⟨declared, directives, -, -, occupied, rfl⟩ := compile_eq_ok_iff.mp compiled
  exact occupied _ (Declared.mem_transitions.mp given)

/-- A compiled mod has exactly the rules that its entries stand for, in order, finds the rules of a
pair or an element among them in the same order, and all of its rules are possible, start from an
occupied cell and lead to elements that there are. -/
theorem Declarations.compile_rules {declarations : Declarations} {rules : RuleSet}
    (compiled : declarations.compile = .ok rules) :
    (rules.reactions.map some = declarations.entries.zipIdx.flatMap fun (entry, ordinal) =>
      rules.reactionsOf entry ordinal) ∧
    (rules.transitions.map some = declarations.entries.zipIdx.flatMap fun (entry, ordinal) =>
      rules.transitionsOf entry ordinal) ∧
    (∀ left right, rules.reactionsFor left right =
      rules.reactions.filter fun reaction => reaction.left = left ∧ reaction.right = right) ∧
    (∀ element, rules.transitionsFor element =
      rules.transitions.filter fun transition => transition.element = element) ∧
    (∀ left, rules.hasReactionsFrom left = true ↔
      ∃ reaction ∈ rules.reactions, reaction.left = left) ∧
    (∀ reaction ∈ rules.reactions,
      Possible reaction.probability ∧ reaction.left ≠ ElementId.empty ∧
        ∀ id ∈ [reaction.left, reaction.right, reaction.outLeft, reaction.outRight],
          id.toNat < rules.elements.size) ∧
    ∀ transition ∈ rules.transitions,
      Possible transition.probability ∧ transition.element ≠ ElementId.empty ∧
        ∀ id ∈ [transition.element, transition.target], id.toNat < rules.elements.size := by
  obtain ⟨declared, directives, gathered, checked, occupied, rfl⟩ := compile_eq_ok_iff.mp compiled
  refine ⟨Declared.map_some_reactions gathered checked,
    Declared.map_some_transitions gathered checked, fun left right => ?_, fun element => ?_,
    RuleSet.hasReactionsFrom_iff _, fun reaction given => ?_, fun transition given => ?_⟩
  · rw [RuleSet.reactionsFor_eq_filter]
    exact List.filter_congr fun reaction _ => by simp [Reaction.pair, Bool.beq_eq_decide_eq]
  · rw [RuleSet.transitionsFor_eq_filter]
    exact List.filter_congr fun transition _ => Bool.beq_eq_decide_eq _ _
  · rw [Declared.size_ruleSet]
    have listed := Declared.mem_reactions.mp given
    obtain ⟨possible, inside⟩ := Declared.reaction_sound gathered checked listed
    refine ⟨possible, fun empty => ?_, inside⟩
    simpa [Consequence.startsFromEmpty, empty, ElementId.isEmpty] using occupied _ listed
  · rw [Declared.size_ruleSet]
    have listed := Declared.mem_transitions.mp given
    obtain ⟨possible, inside⟩ := Declared.transition_sound gathered checked listed
    refine ⟨possible, fun empty => ?_, inside⟩
    simpa [Consequence.startsFromEmpty, empty, ElementId.isEmpty] using occupied _ listed

/-- Acid that eats whatever is soluble. -/
def dissolving : Declarations :=
  [.element "Acid" "#80ff00", .element "Salt" "#ffffff", .element "Sugar" "#fff0e0",
    .relation "Soluble" 1,
    .member "Soluble" [.element "Salt"], .member "Soluble" [.element "Sugar"],
    .block [⟨"Soluble", [.var "solid"]⟩]
      [.reaction Single.one (.element "Acid") (.var "solid") (.element "Acid") (.element "Acid")]]

theorem compiles_dissolving : Succeeds dissolving.compile :=
  Declarations.compile_succeeds (by decide) ⟨by decide, by decide, by decide, by decide⟩
    (by decide) (by decide)

theorem dissolving_rules : ∃ rules, dissolving.compile = .ok rules ∧
    (rules.reactions.map some = dissolving.entries.zipIdx.flatMap fun (entry, ordinal) =>
      rules.reactionsOf entry ordinal) ∧
    ∀ reaction ∈ rules.reactions,
      Possible reaction.probability ∧ reaction.left ≠ ElementId.empty ∧
        ∀ id ∈ [reaction.left, reaction.right, reaction.outLeft, reaction.outRight],
          id.toNat < rules.elements.size := by
  obtain ⟨rules, compiled⟩ := compiles_dissolving
  obtain ⟨listed, -, -, -, -, proper, -⟩ := Declarations.compile_rules compiled
  exact ⟨rules, compiled, listed, proper⟩

end FallingSand
