import FallingSand.Proofs.Mod.Acceptance
import FallingSand.Proofs.Mod.Saturation
import Mathlib.Order.Bounds.Basic

/-!
# The memberships of a mod

The membership statements of a mod say which tuples a relation has: those named at the top, and
those that follow from other tuples under clauses.  The closed registry of a checked mod holds the
least family of tuples with this property.
-/

namespace FallingSand

/-- A set of tuples for the relation of each name. -/
abbrev NamedFamily := String → Set (List ElementId)

namespace Catalog

/-- The element that a term names, if it is no variable. -/
def literal? (catalog : Catalog) : Term → Option ElementId
  | .element name => (catalog.names.find? name).map fun place => ⟨UInt16.ofNat place⟩
  | .var _ => none

/-- Under the assignment, the terms are a tuple of the relation. -/
def Holds (catalog : Catalog) (family : NamedFamily) (assignment : Assignment)
    (relation : String) (terms : List Term) : Prop :=
  ∃ tuple, terms.mapM (catalog.value? assignment) = some tuple ∧ tuple ∈ family relation

end Catalog

namespace Declared

/-- The family has all tuples that the membership statements of a mod ask for. -/
structure Closed (declared : Declared) (entries : List Entry) (family : NamedFamily) : Prop where
  /-- At the top, the tuple that is written down. -/
  facts : ∀ entry ∈ entries, ∀ relation terms, entry.statement = .member relation terms →
    entry.clauses = [] →
      ∃ tuple, terms.mapM declared.catalog.literal? = some tuple ∧ tuple ∈ family relation
  /-- Under clauses, the tuple for every assignment that turns the clauses into tuples. -/
  derived : ∀ entry ∈ entries, ∀ relation terms, entry.statement = .member relation terms →
    entry.clauses ≠ [] → ∀ assignment,
      (∀ clause ∈ entry.clauses,
        declared.catalog.Holds family assignment clause.relation clause.terms) →
      declared.catalog.Holds family assignment relation terms

end Declared

/-! ## The start -/

namespace Registry

/-- The tuples of the relation of a name. -/
def tuplesOf (registry : Registry) : NamedFamily :=
  fun name => {tuple | ∃ relation, registry.get name = .ok relation ∧
    ∃ membership ∈ relation.members, membership.tuple = tuple}

theorem mem_tuplesOf {registry : Registry} {name : String} {tuple : List ElementId} :
    tuple ∈ registry.tuplesOf name ↔
      ∃ place, registry.names.find? name = some place ∧ tuple ∈ registry.tuplesAt place := by
  change (∃ relation, registry.get name = .ok relation ∧
    ∃ membership ∈ relation.members, membership.tuple = tuple) ↔ _
  rw [get]
  cases named : registry.names.find? name with
  | none => simp
  | some place =>
      cases stands : registry.relations[place]? <;>
        simp [tuplesAt, membersAt, stands]

theorem arityAt?_withTemplates (registry : Registry) (directives : List Directive) (place : Nat) :
    (registry.withTemplates directives).arityAt? place = registry.arityAt? place := by
  simp only [arityAt?, withTemplates, Array.getElem?_mapIdx, Option.map_map]
  rfl

theorem tuplesAt_withTemplates (registry : Registry) (directives : List Directive) (place : Nat) :
    (registry.withTemplates directives).tuplesAt place = registry.tuplesAt place := by
  simp only [tuplesAt, membersAt, withTemplates, Array.getElem?_mapIdx]
  cases registry.relations[place]? <;> rfl

theorem tuplesAt_declare {registry declared : Registry} {name : String} {arity : Nat}
    (success : registry.declare name arity = .ok declared) (place : Nat) :
    declared.tuplesAt place = registry.tuplesAt place := by
  rw [declare] at success
  split at success
  · cases success
  · split at success
    · cases success
    · cases success
      simp only [tuplesAt, membersAt, Array.getElem?_push]
      by_cases last : place = registry.relations.size
      · subst last
        simp [Relation.ofArity]
      · simp [last]

end Registry

namespace Declared

variable {declared : Declared} {directives : List Directive}

/-- What every declaration keeps holds of what is gathered. -/
theorem gathered_induction {P : Declared → Prop} {entries : List Entry} (begins : P initial)
    (titled : ∀ declared text, P declared → P { declared with title := some text })
    (defined : ∀ declared name color id catalog,
      declared.catalog.define name color = .ok (id, catalog) → P declared →
        P { declared with catalog })
    (related : ∀ declared name arity registry,
      declared.registry.declare name arity = .ok registry → P declared →
        P { declared with registry })
    (gathered : Declared.ofEntries entries = .ok declared) : P declared := by
  refine foldlM_ok_induction (P := P) ?_ gathered begins
  intro before entry after _ added holds
  have added := Entry.locate_eq_ok added
  rw [Declared.add] at added
  split at added
  · obtain ⟨_, _, rest⟩ := bind_eq_ok_iff.mp added
    cases rest
    exact titled _ _ holds
  · obtain ⟨_, _, rest⟩ := bind_eq_ok_iff.mp added
    obtain ⟨⟨_, _⟩, success, rest⟩ := bind_eq_ok_iff.mp rest
    cases rest
    exact defined _ _ _ _ _ success holds
  · obtain ⟨_, _, rest⟩ := bind_eq_ok_iff.mp added
    obtain ⟨_, success, rest⟩ := bind_eq_ok_iff.mp rest
    cases rest
    exact related _ _ _ _ success holds
  · cases added
    exact holds

/-- What every declaration of an element keeps holds of the catalog. -/
theorem catalog_induction {P : Catalog → Prop} {entries : List Entry} (begins : P Catalog.initial)
    (kept : ∀ catalog name color id after, catalog.define name color = .ok (id, after) →
      P catalog → P after)
    (gathered : Declared.ofEntries entries = .ok declared) : P declared.catalog :=
  gathered_induction (P := fun declared : Declared => P declared.catalog) begins
    (fun _ _ holds => holds) (fun _ _ _ _ _ success holds => kept _ _ _ _ _ success holds)
    (fun _ _ _ _ _ holds => holds) gathered

/-- What every declaration of a relation keeps holds of the relations that are gathered. -/
theorem registry_induction {P : Registry → Prop} {entries : List Entry} (begins : P Registry.empty)
    (kept : ∀ registry name arity after, registry.declare name arity = .ok after →
      P registry → P after)
    (gathered : Declared.ofEntries entries = .ok declared) : P declared.registry :=
  gathered_induction (P := fun declared : Declared => P declared.registry) begins
    (fun _ _ holds => holds) (fun _ _ _ _ _ _ holds => holds)
    (fun _ _ _ _ success holds => kept _ _ _ _ success holds) gathered

/-- What is gathered from the statements of a mod holds no tuples yet. -/
theorem tuplesAt_of_gathered {entries : List Entry}
    (gathered : Declared.ofEntries entries = .ok declared) (place : Nat) :
    declared.registry.tuplesAt place = [] :=
  registry_induction (P := fun registry => registry.tuplesAt place = []) rfl
    (fun _ _ _ _ success vacant => (Registry.tuplesAt_declare success place).trans vacant) gathered

theorem within_withTemplates (vacant : ∀ place, declared.registry.tuplesAt place = [])
    (directives : List Directive) (family : Family) :
    (declared.registry.withTemplates directives).Within declared.shape family where
  arities place := declared.registry.arityAt?_withTemplates directives place
  tuples place tuple held := by
    rw [Registry.tuplesAt_withTemplates, vacant] at held
    cases held

/-! ## Directives and statements -/

theorem mapM_literal?_of_resolves {terms : List Term} {slots : List Slot} (assignment : Assignment)
    (resolves : List.Forall₂ (declared.ResolvesUnder []) terms slots) :
    terms.mapM declared.catalog.literal? = some (slots.map (Slot.value assignment)) := by
  induction resolves with
  | nil => rfl
  | @cons term slot terms slots first _ ih =>
      obtain ⟨resolves, mentioned⟩ := first
      cases term with
      | element name =>
          obtain ⟨place, found, rfl⟩ := resolves_element resolves
          simp [List.mapM_cons, Catalog.literal?, found, Slot.value, ih]
      | var name => simpa using mentioned name rfl

theorem holds_iff_of_resolves {family : NamedFamily} {assignment : Assignment} {relation : String}
    {terms : List Term} {slots : List Slot}
    (resolves : List.Forall₂ declared.Resolves terms slots) :
    declared.catalog.Holds family assignment relation terms ↔
      slots.map (Slot.value assignment) ∈ family relation := by
  simp [Catalog.Holds, mapM_value?_of_resolves resolves]

/-- The directive of a membership statement asserts what the statement says. -/
theorem exists_member {entry : Entry} {directive : Directive}
    (directs : declared.Directs entry directive) {relation : String} {terms : List Term}
    (statement : entry.statement = .member relation terms) :
    ∃ place subject args, directive.action = .member place subject args ∧
      declared.registry.names.find? relation = some place ∧
      List.Forall₂ (declared.ResolvesUnder entry.clauses) terms (subject :: args) := by
  have acts := directs.acts
  have slots := directs.slots
  rw [statement] at acts slots
  generalize shape : directive.action = action at acts slots
  cases acts with
  | member named arity => exact ⟨_, _, _, rfl, named, slots⟩

/-- Only a membership statement has a directive that asserts a tuple. -/
theorem member_of_directs {entry : Entry} {directive : Directive}
    (directs : declared.Directs entry directive) {place : Nat} {subject : Slot} {args : List Slot}
    (action : directive.action = .member place subject args) :
    ∃ relation terms, entry.statement = .member relation terms ∧
      declared.registry.names.find? relation = some place ∧
      List.Forall₂ (declared.ResolvesUnder entry.clauses) terms (subject :: args) := by
  have acts := directs.acts
  have slots := directs.slots
  rw [action] at acts slots
  generalize shape : entry.statement = statement at acts slots
  cases acts with
  | member named arity => exact ⟨_, _, rfl, named, slots⟩

/-- The directive of a property statement assigns what its subject stands for. -/
theorem exists_property {entry : Entry} {directive : Directive}
    (directs : declared.Directs entry directive) {key : PropertyKey} {subject : Term}
    {value : Single} (statement : entry.statement = .property key subject value) :
    ∃ slot, directive.action = .property key slot value ∧
      declared.ResolvesUnder entry.clauses subject slot := by
  have acts := directs.acts
  have slots := directs.slots
  rw [statement] at acts slots
  generalize directive.action = action at acts slots
  cases acts with
  | property accepted =>
      obtain _ | ⟨first, -⟩ := slots
      exact ⟨_, rfl, first⟩

/-- Only a property statement has a directive that assigns a property. -/
theorem property_of_directs {entry : Entry} {directive : Directive}
    (directs : declared.Directs entry directive) {key : PropertyKey} {slot : Slot} {value : Single}
    (action : directive.action = .property key slot value) :
    ∃ subject, entry.statement = .property key subject value ∧
      declared.ResolvesUnder entry.clauses subject slot := by
  have acts := directs.acts
  have slots := directs.slots
  rw [action] at acts slots
  generalize entry.statement = statement at acts slots
  cases acts with
  | property accepted =>
      obtain _ | ⟨first, -⟩ := slots
      exact ⟨_, rfl, first⟩

theorem patterns_eq_nil_iff {entry : Entry} {directive : Directive}
    (directs : declared.Directs entry directive) :
    directive.patterns = [] ↔ entry.clauses = [] := by
  rw [← List.length_eq_zero_iff, ← List.length_eq_zero_iff, directs.patterns.length_eq]

theorem exists_pattern_of_single {entry : Entry} {directive : Directive}
    (directs : declared.Directs entry directive) {clause : Clause}
    (single : entry.clauses = [clause]) :
    ∃ pattern, directive.patterns = [pattern] ∧ declared.Matches clause pattern := by
  have patterns := directs.patterns
  rw [single] at patterns
  obtain ⟨pattern, others, comes, rest, same⟩ := List.forall₂_cons_left_iff.mp patterns
  obtain rfl := List.forall₂_nil_left_iff.mp rest
  exact ⟨pattern, same, comes⟩

/-! ## The least family -/

/-- A slot that a directive may fill stands for a declared element. -/
theorem value_lt_of_knows {shape : Shape} {directive : Directive} {assignment : Assignment}
    {slot : Slot} (known : directive.Knows shape slot)
    (inside : ∀ pattern ∈ directive.patterns,
      pattern.tuple assignment ∈ shape.tuples pattern.relation) :
    (slot.value assignment).toNat < shape.elements := by
  cases slot with
  | element id => exact known
  | var name =>
      obtain ⟨pattern, member, occurs⟩ := known
      exact (inside pattern member).2 _ (List.mem_map.mpr ⟨.var name, occurs, rfl⟩)

/-- No directive leads out of the tuples of declared elements that fit. -/
theorem closes_tuples {shape : Shape} {directive : Directive}
    (wellFormed : directive.WellFormed shape) : directive.Closes shape.tuples := by
  intro place subject args action assignment inside
  refine ⟨by simpa using wellFormed.member place subject args action, ?_⟩
  intro id listed
  obtain ⟨slot, filled, rfl⟩ := List.mem_map.mp listed
  have known := wellFormed.slots slot (by simpa [action, Action.slots] using filled)
  exact value_lt_of_knows known inside

/-- The part of a family by name that fits the relations at their places. -/
def fittingPart (declared : Declared) (family : NamedFamily) : Family :=
  fun place => {tuple | tuple ∈ declared.shape.tuples place ∧
    ∃ name, declared.registry.names.find? name = some place ∧ tuple ∈ family name}

theorem name_unique {names : Roster} {first second : String} {place : Nat}
    (one : names.find? first = some place) (other : names.find? second = some place) :
    first = second := by
  rw [Roster.find?_eq_some_iff] at one other
  exact Option.some.inj (one.symm.trans other)

/-- A directive does not lead out of a family that has what its statement asks for. -/
theorem closes_fittingPart {entries : List Entry} {family : NamedFamily}
    (closed : declared.Closed entries family) {entry : Entry} (listed : entry ∈ entries)
    {directive : Directive} (directs : declared.Directs entry directive) :
    directive.Closes (declared.fittingPart family) := by
  intro place subject args action assignment inside
  obtain ⟨relation, terms, statement, named, resolves⟩ := member_of_directs directs action
  have wellFormed := wellFormed_of_directs directs
  refine ⟨closes_tuples wellFormed place subject args action assignment
    fun pattern member => (inside pattern member).1, relation, named, ?_⟩
  by_cases top : entry.clauses = []
  · obtain ⟨tuple, written, held⟩ := closed.facts entry listed relation terms statement top
    rw [top] at resolves
    rw [mapM_literal?_of_resolves assignment resolves] at written
    exact Option.some.inj written ▸ held
  · rw [← holds_iff_of_resolves (resolves.imp fun _ _ both => both.1)]
    refine closed.derived entry listed relation terms statement top assignment ?_
    intro clause member
    obtain ⟨pattern, picked, comes⟩ := exists_of_mem_left directs.patterns member
    obtain ⟨-, name, found, held⟩ := inside pattern picked
    rw [holds_iff_of_resolves comes.slots, name_unique comes.relation found]
    exact held

/-- The statements at the top, which are carried out once. -/
def facts (directives : List Directive) : List Directive :=
  directives.filter fun directive => directive.isFact

/-- The membership statements under clauses, which are carried out in rounds. -/
def derivations (directives : List Directive) : List Directive :=
  directives.filter fun directive => !directive.isFact && directive.memberLength?.isSome

theorem facts_subset (directives : List Directive) : facts directives ⊆ directives :=
  List.filter_subset_self _

theorem derivations_subset (directives : List Directive) : derivations directives ⊆ directives :=
  List.filter_subset_self _

theorem wellFormed_of_checked {entries : List Entry}
    (checked : declared.directives entries = .ok directives) :
    ∀ directive ∈ directives, directive.WellFormed declared.shape := by
  intro directive listed
  obtain ⟨entry, -, directs⟩ := exists_entry checked listed
  exact wellFormed_of_directs directs

section Closing

variable {start : Registry} {shape : Shape}
  (wellFormed : ∀ directive ∈ directives, directive.WellFormed shape)

include wellFormed

/-- A family that no directive leads out of has all that is held in the end. -/
theorem within_close {family : Family} (within : start.Within shape family)
    (proper : ∀ place, family place ⊆ shape.tuples place)
    (closes : ∀ directive ∈ directives, directive.Closes family) :
    (start.close directives shape.elements).Within shape family := by
  have afterFacts : (start.round (facts directives)).Within shape family :=
    within.round (fun directive listed => wellFormed directive (facts_subset _ listed)) proper
      fun directive listed => closes directive (facts_subset _ listed)
  exact afterFacts.saturate
    (fun directive listed => wellFormed directive (derivations_subset _ listed)) proper
    (fun directive listed => closes directive (derivations_subset _ listed)) _

/-- Carrying out the statements does not fail, and it ends at rest. -/
theorem close_saturates (within : start.Within shape shape.tuples) :
    start.round? (facts directives) = some (start.round (facts directives)) ∧
      Registry.Saturates (derivations directives) (start.round (facts directives))
        (start.close directives shape.elements) ∧
      (start.close directives shape.elements).Rests (derivations directives) := by
  have factsFit : ∀ directive ∈ facts directives, directive.WellFormed shape :=
    fun directive listed => wellFormed directive (facts_subset _ listed)
  have derivationsFit : ∀ directive ∈ derivations directives, directive.WellFormed shape :=
    fun directive listed => wellFormed directive (derivations_subset _ listed)
  have proper : ∀ place, shape.tuples place ⊆ shape.tuples place := fun _ => subset_rfl
  have factsClose := fun directive listed => closes_tuples (factsFit directive listed)
  refine ⟨Registry.round?_eq_some within factsFit proper factsClose, ?_⟩
  exact Registry.saturates_and_rests (within.round factsFit proper factsClose) derivationsFit
    proper (fun directive listed => closes_tuples (derivationsFit directive listed))
    (Registry.missing_lt_roundLimit _ _ _)

end Closing

section Checked

variable {entries : List Entry} (checked : declared.directives entries = .ok directives)
  (vacant : ∀ place, declared.registry.tuplesAt place = [])

include checked vacant

/-- What is held in the end has all tuples that the statements ask for. -/
theorem closed_tuplesOf_close :
    declared.Closed entries
      ((declared.registry.withTemplates directives).close directives
        declared.catalog.size).tuplesOf := by
  have wellFormed := wellFormed_of_checked checked
  have proper : ∀ place, declared.shape.tuples place ⊆ declared.shape.tuples place :=
    fun _ => subset_rfl
  have within := within_withTemplates vacant directives declared.shape.tuples
  have rests := (close_saturates wellFormed within).2.2
  have names := (declared.registry.withTemplates directives).names_close directives
    declared.catalog.size
  constructor
  case facts =>
    intro entry listed relation terms statement top
    obtain ⟨directive, given, directs⟩ := exists_directive checked listed (by rw [statement]; rfl)
    obtain ⟨place, subject, args, action, named, resolves⟩ := exists_member directs statement
    have fact := (patterns_eq_nil_iff directs).mpr top
    have known : directive ∈ facts directives :=
      List.mem_filter.mpr ⟨given, by simp [Directive.isFact, fact]⟩
    have early := Registry.mem_held_round known fact action (wellFormed directive given)
      within.arities fun _ => default
    have grown := Registry.saturate_induction
      (fun _ before => Registry.round_induction (Registry.insertionKeeps_grows _)
        (derivations directives) before)
      (Registry.roundLimit (derivations directives) declared.catalog.size)
      (.refl ((declared.registry.withTemplates directives).round (facts directives)))
    rw [top] at resolves
    refine ⟨_, mapM_literal?_of_resolves (fun _ => default) resolves, ?_⟩
    exact Registry.mem_tuplesOf.mpr ⟨place, names ▸ named, grown.tuples place early⟩
  case derived =>
    intro entry listed relation terms statement under assignment held
    obtain ⟨directive, given, directs⟩ := exists_directive checked listed (by rw [statement]; rfl)
    obtain ⟨place, subject, args, action, named, resolves⟩ := exists_member directs statement
    have patterned : directive.patterns ≠ [] := fun fact =>
      under ((patterns_eq_nil_iff directs).mp fact)
    have derives : directive ∈ derivations directives :=
      List.mem_filter.mpr ⟨given, by simp [Directive.isFact, Directive.memberLength?, action,
        patterned]⟩
    have inside := within_close wellFormed within proper fun directive given =>
      closes_tuples (wellFormed directive given)
    have closes := Registry.closes_held_of_rests inside proper rests derives
      (wellFormed directive given)
    rw [holds_iff_of_resolves (resolves.imp fun _ _ both => both.1)]
    refine Registry.mem_tuplesOf.mpr ⟨place, names ▸ named, ?_⟩
    refine closes place subject args action assignment fun pattern picked => ?_
    obtain ⟨clause, member, comes⟩ := exists_of_mem_right directs.patterns picked
    obtain ⟨other, found, stands⟩ :=
      Registry.mem_tuplesOf.mp ((holds_iff_of_resolves comes.slots).mp (held clause member))
    have relation := comes.relation
    rw [names] at found
    rw [Option.some.inj (relation.symm.trans found)]
    exact stands

/-- What is held in the end is needed by every family that has all tuples asked for. -/
theorem tuplesOf_close_subset {family : NamedFamily} (closed : declared.Closed entries family)
    (name : String) :
    ((declared.registry.withTemplates directives).close directives
      declared.catalog.size).tuplesOf name ⊆ family name := by
  intro tuple held
  obtain ⟨place, found, stands⟩ := Registry.mem_tuplesOf.mp held
  have within := within_close (wellFormed_of_checked checked)
    (within_withTemplates vacant directives (declared.fittingPart family))
    (fun place tuple fitting => fitting.1) fun directive given => by
      obtain ⟨entry, listed, directs⟩ := exists_entry checked given
      exact closes_fittingPart closed listed directs
  obtain ⟨-, other, named, member⟩ := within.tuples place tuple stands
  have names := (declared.registry.withTemplates directives).names_close directives
    declared.catalog.size
  rw [names] at found
  rw [name_unique found named]
  exact member

end Checked

/-- The membership statements of a checked mod are carried out without failing, in rounds that end
by themselves.  What is held then is the least family that has all tuples that the statements ask
for, and no tuple is held twice. -/
theorem close_isLeast {declarations : Declarations} {declared : Declared}
    {directives : List Directive}
    (gathered : Declared.ofEntries declarations.entries = .ok declared)
    (checked : declared.directives declarations.entries = .ok directives) :
    let start := declared.registry.withTemplates directives
    let closed := start.close directives declared.catalog.size
    (∃ known, start.round? (facts directives) = some known ∧
      Registry.Saturates (derivations directives) known closed) ∧
      IsLeast {family | declared.Closed declarations.entries family} closed.tuplesOf ∧
      ∀ place, (closed.tuplesAt place).Nodup := by
  intro start closed
  have wellFormed := wellFormed_of_checked checked
  have vacant := tuplesAt_of_gathered gathered
  obtain ⟨succeeds, saturates, -⟩ :=
    close_saturates wellFormed (within_withTemplates vacant directives _)
  refine ⟨⟨_, succeeds, saturates⟩, ⟨closed_tuplesOf_close checked vacant,
    fun family closed name => tuplesOf_close_subset checked vacant closed name⟩, ?_⟩
  refine Registry.close_induction Registry.insertionKeeps_distinct directives _ fun place => ?_
  rw [Registry.tuplesAt_withTemplates, vacant]
  exact List.nodup_nil

/-- Two places with roads both ways, and what can be reached over roads. -/
def roads : Declarations :=
  [.element "Here" "#102030", .element "There" "#405060",
    .relation "Road" 2, .relation "Reach" 2,
    .member "Road" [.element "Here", .element "There"],
    .member "Road" [.element "There", .element "Here"],
    .block [⟨"Road", [.var "from", .var "to"]⟩] [.member "Reach" [.var "from", .var "to"]],
    .block [⟨"Reach", [.var "from", .var "over"]⟩, ⟨"Road", [.var "over", .var "to"]⟩]
      [.member "Reach" [.var "from", .var "to"]]]

theorem roads_isLeast :
    ∃ declared directives,
      Declared.ofEntries roads.entries = .ok declared ∧
      declared.directives roads.entries = .ok directives ∧
      IsLeast {family | declared.Closed roads.entries family}
        ((declared.registry.withTemplates directives).close directives
          declared.catalog.size).tuplesOf := by
  have top : ∀ entry ∈ roads.entries, entry.declares = true → entry.clauses = [] := by decide
  have sound : (Vocabulary.initial.extend roads.entries).Sound :=
    ⟨by decide, by decide, by decide, by decide⟩
  have fits : ∀ entry ∈ roads.entries,
      (Vocabulary.initial.extend roads.entries).FitsEntry entry := by decide
  obtain ⟨declared, gathered⟩ := ofEntries_succeeds_iff.mpr ⟨top, sound⟩
  obtain ⟨directives, checked⟩ := (directives_succeeds_iff (lists_of_gathered gathered)).mpr fits
  exact ⟨declared, directives, gathered, checked, (close_isLeast gathered checked).2.1⟩

end Declared
end FallingSand
