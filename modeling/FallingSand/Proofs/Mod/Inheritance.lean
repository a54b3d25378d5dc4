import FallingSand.Proofs.Mod.Bequests
import FallingSand.Proofs.Mod.Table

/-!
# Which value a property gets

What is said about an element by name outranks what is said about the subjects of relations, and
the last statement wins.  An element about which nothing is said by name inherits from the relation
that it has joined with the latest origin, among those whose templates know the property, and what
it inherits is the value in the template.
-/

namespace FallingSand

variable {entries : List Entry} {declared : Declared} {directives : List Directive}
  {key : PropertyKey} {value : Single} {id : ElementId}

/-! ## Statements by name -/

/-- The value that a statement at the top gives to a property of a named element. -/
def Entry.stated? (entry : Entry) (key : PropertyKey) (name : String) : Option Single :=
  match entry.clauses, entry.statement with
  | [], .property other (.element subject) value =>
      if other = key ∧ subject = name then some value else none
  | _, _ => none

/-- The values that statements at the top give to a property of a named element, in order. -/
def Declarations.stated (declarations : Declarations) (key : PropertyKey) (name : String) :
    List Single :=
  declarations.entries.filterMap fun entry => entry.stated? key name

theorem Entry.stated?_eq_some {entry : Entry} {name : String} :
    entry.stated? key name = some value ↔
      entry.clauses = [] ∧ entry.statement = .property key (.element name) value := by
  rw [stated?]
  split
  · rename_i clauses statement
    simp only [clauses, statement, true_and, Statement.property.injEq, Term.element.injEq,
      Option.ite_none_right_eq_some, Option.some.injEq]
    tauto
  · rename_i different
    simp only [reduceCtorEq, false_iff]
    rintro ⟨clauses, statement⟩
    exact different _ _ _ clauses statement

/-- The last result of a traversal comes from an item after which there is none. -/
theorem exists_of_getLast?_filterMap {α β : Type} {f : α → Option β} {items : List α} {result : β}
    (last : (items.filterMap f).getLast? = some result) :
    ∃ (place : Nat) (item : α), items[place]? = some item ∧ f item = some result ∧
      ∀ (later : Nat) (other : α), place < later → items[later]? = some other →
        f other = none := by
  induction items using List.reverseRecOn with
  | nil => cases last
  | append_singleton items final induction =>
      rw [List.filterMap_append] at last
      cases found : f final with
      | some standing =>
          obtain rfl : standing = result := by simpa [found] using last
          refine ⟨items.length, final, by simp, found, fun later other after stands => ?_⟩
          rw [List.getElem?_eq_none (by simp; omega)] at stands
          cases stands
      | none =>
          obtain ⟨place, item, stands, given, silent⟩ := induction (by simpa [found] using last)
          have inside := (List.getElem?_eq_some_iff.mp stands).1
          refine ⟨place, item, by rw [List.getElem?_append_left inside, stands], given, ?_⟩
          intro later other after there
          by_cases earlier : later < items.length
          · rw [List.getElem?_append_left earlier] at there
            exact silent later other after there
          · rw [List.getElem?_append_right (Nat.le_of_not_lt earlier)] at there
            obtain rfl := List.mem_singleton.mp (List.mem_of_getElem? there)
            exact found

namespace Declared

section Top

variable {entry : Entry} {directive : Directive} (directs : declared.Directs entry directive)

include directs

/-- At the top there are no variables, so a property is stated about the element it is given to. -/
theorem stated_of_action (top : entry.clauses = []) {row : Row} {subject : Slot}
    (action : directive.action = .property key subject value)
    (found : row.element? subject = some id) :
    entry.stated? key (declared.nameOf id) = some value := by
  obtain ⟨term, statement, resolves⟩ := property_of_directs directs action
  refine Entry.stated?_eq_some.mpr ⟨top, ?_⟩
  rw [top] at resolves
  cases term with
  | var name => simpa using resolves.2 name rfl
  | element name =>
      obtain ⟨position, named, rfl⟩ := resolves_element resolves.1
      obtain rfl := Option.some.inj found
      rw [statement, nameOf_of_find? named]

theorem action_of_stated (inside : id.toNat < declared.catalog.size)
    (given : entry.stated? key (declared.nameOf id) = some value) :
    directive.patterns = [] ∧ directive.action = .property key (.element id) value := by
  obtain ⟨clauses, statement⟩ := Entry.stated?_eq_some.mp given
  obtain ⟨slot, action, resolves⟩ := exists_property directs statement
  obtain ⟨position, named, rfl⟩ := resolves_element resolves.1
  rw [find?_nameOf inside] at named
  obtain rfl := Option.some.inj named
  have same : (⟨UInt16.ofNat id.toNat⟩ : ElementId) = id :=
    ElementId.toNat_injective (toNat_of_find? (find?_nameOf inside))
  exact ⟨(patterns_eq_nil_iff directs).mpr clauses, by rw [action, same]⟩

end Top

/-- An explicit assignment is a statement at the top. -/
theorem mem_consequences_explicit (checked : declared.directives entries = .ok directives)
    (inside : id.toNat < declared.catalog.size) {ordinal : Nat} :
    .property id key value (.explicit ordinal) ∈ declared.consequences directives ↔
      ∃ entry, entries[ordinal]? = some entry ∧
        entry.stated? key (declared.nameOf id) = some value := by
  constructor
  · intro listed
    obtain ⟨directive, given, listed⟩ := List.mem_flatMap.mp listed
    obtain ⟨row, -, place, success⟩ := Directive.exists_row_of_mem_consequences listed
    obtain ⟨entry, stands, directs⟩ := exists_entry_at checked given
    obtain ⟨subject, action, found, same⟩ := Directive.consequence?_property success
    unfold Directive.provenance at same
    split at same
    · rename_i top
      cases same
      have clauses := (patterns_eq_nil_iff directs).mp (List.isEmpty_iff.mp top)
      exact ⟨entry, stands, stated_of_action directs clauses action found⟩
    · cases same
  · rintro ⟨entry, stands, given⟩
    obtain ⟨-, statement⟩ := Entry.stated?_eq_some.mp given
    obtain ⟨directive, among, rfl, directs⟩ := exists_directive_at checked stands
      (by rw [statement]; rfl)
    obtain ⟨patterns, action⟩ := action_of_stated directs inside given
    exact List.mem_flatMap.mpr ⟨directive, among,
      Directive.mem_consequences_property patterns action _⟩

/-- The last statement by name gives a property its value. -/
theorem value_of_stated (gathered : Declared.ofEntries entries = .ok declared)
    (checked : declared.directives entries = .ok directives)
    (inside : id.toNat < declared.catalog.size)
    (last : (entries.filterMap fun entry =>
      entry.stated? key (declared.nameOf id)).getLast? = some value) :
    ((declared.ruleSet directives).elements.properties id).get key = value := by
  obtain ⟨ordinal, entry, stands, given, silent⟩ := exists_of_getLast?_filterMap last
  have listed := (mem_consequences_explicit checked inside).mpr ⟨entry, stands, given⟩
  rcases value_ruleSet gathered directives inside key with
    ⟨provenance, wins, greatest⟩ | ⟨absent, -⟩
  · have ranked := greatest _ _ listed
    cases provenance with
    | inherited origin statement => cases ranked
    | explicit winner =>
        obtain ⟨other, there, states⟩ := (mem_consequences_explicit checked inside).mp wins
        rcases Nat.eq_or_lt_of_le (of_decide_eq_true ranked) with rfl | later
        · obtain rfl := Option.some.inj (there.symm.trans stands)
          exact Option.some.inj (states.symm.trans given)
        · rw [silent winner other later there] at states
          cases states
  · exact absurd listed (absent _ _)

end Declared

/-! ## Statements about the subjects of relations -/

/-- Under clauses, a property is stated about the subject of a single clause, whose terms are
different variables. -/
def Entry.Inheriting (entry : Entry) : Prop :=
  ∀ key subject value, entry.statement = .property key subject value →
    ∀ clause ∈ entry.clauses, entry.clauses = [clause] ∧ clause.terms.head? = some subject ∧
      clause.terms.Nodup ∧ ∀ term ∈ clause.terms, term.var? ≠ none

/-- A membership of an element in a relation whose template knows a property. -/
structure RuleSet.Bequest (rules : RuleSet) (key : PropertyKey) (id : ElementId)
    (relation : Relation) (membership : Membership) : Prop where
  /-- The relation has a name. -/
  named : ∃ name, rules.registry.get name = .ok relation
  /-- The membership is one of the relation. -/
  member : membership ∈ relation.members
  /-- The element is its subject. -/
  subject : membership.subject = id
  /-- The template has a value for the property. -/
  known : (relation.template.get? key).isSome = true

/-- Of the memberships in relations whose templates know a property, this one has the greatest
origin. -/
structure RuleSet.LatestBequest (rules : RuleSet) (key : PropertyKey) (id : ElementId)
    (relation : Relation) (membership : Membership) : Prop
    extends rules.Bequest key id relation membership where
  /-- No other one has a greater origin. -/
  latest : ∀ other member, rules.Bequest key id other member →
    member.origin.le membership.origin = true

namespace Declared

theorem forall₂_resolves_var {names : List String} {slots : List Slot}
    (resolves : List.Forall₂ declared.Resolves (names.map Term.var) slots) :
    slots = names.map Slot.var := by
  induction names generalizing slots with
  | nil => exact List.forall₂_nil_left_iff.mp resolves
  | cons name names induction =>
      obtain ⟨slot, rest, first, later, rfl⟩ := List.forall₂_cons_left_iff.mp resolves
      rw [resolves_var.mp first, induction later, List.map_cons]

theorem exists_map_var {terms : List Term} (named : ∀ term ∈ terms, term.var? ≠ none) :
    ∃ names : List String, terms = names.map Term.var := by
  induction terms with
  | nil => exact ⟨[], rfl⟩
  | cons term terms induction =>
      obtain ⟨first, later⟩ := List.forall_mem_cons.mp named
      obtain ⟨names, rfl⟩ := induction later
      cases term with
      | element name => exact absurd rfl first
      | var name => exact ⟨name :: names, rfl⟩

/-- A property statement under clauses gives the property to the subjects of a relation. -/
theorem bequeaths_of_directs {entry : Entry} {directive : Directive}
    (directs : declared.Directs entry directive) (inheriting : entry.Inheriting) {slot : Slot}
    (action : directive.action = .property key slot value) (under : directive.patterns ≠ []) :
    ∃ pattern, directive.patterns = [pattern] ∧
      directive.Bequeaths pattern.relation key value := by
  obtain ⟨term, statement, resolves⟩ := property_of_directs directs action
  have clauses : entry.clauses ≠ [] :=
    fun bare => under ((patterns_eq_nil_iff directs).mpr bare)
  obtain ⟨clause, listed⟩ := List.exists_mem_of_ne_nil _ clauses
  obtain ⟨single, head, distinct, named⟩ := inheriting key term value statement clause listed
  obtain ⟨_ | ⟨name, names⟩, terms⟩ := exists_map_var named
  · simp [terms] at head
  · obtain rfl : Term.var name = term := by simpa [terms] using head
    obtain ⟨pattern, same, comes⟩ := exists_pattern_of_single directs single
    have filled := forall₂_resolves_var (terms ▸ comes.slots)
    obtain rfl := resolves_var.mp resolves.1
    refine ⟨pattern, same, name, names, ?_, by rw [same, ← filled], action⟩
    rw [terms] at distinct
    exact distinct.of_map _

theorem templated_closed (declared : Declared) (directives : List Directive) :
    (declared.closed directives).Templated directives :=
  Registry.close_induction (Registry.insertionKeeps_templated directives) directives _
    (Registry.templated_withTemplates _ _)

theorem membersAt_of_gathered (gathered : Declared.ofEntries entries = .ok declared)
    (directives : List Directive) (place : Nat) :
    (declared.registry.withTemplates directives).membersAt place = #[] := by
  have empty := tuplesAt_of_gathered gathered place
  rw [← Registry.tuplesAt_withTemplates _ directives, Registry.tuplesAt] at empty
  simpa using empty

theorem numbered_withTemplates (gathered : Declared.ofEntries entries = .ok declared)
    (directives : List Directive) : (declared.registry.withTemplates directives).Numbered := by
  have empty := membersAt_of_gathered gathered directives
  constructor
  · intro place membership held
    simp [empty] at held
  · intro place other membership held
    simp [empty] at held

theorem numbered_closed (gathered : Declared.ofEntries entries = .ok declared)
    (directives : List Directive) : (declared.closed directives).Numbered :=
  Registry.close_induction Registry.insertionKeeps_numbered directives _
    (numbered_withTemplates gathered directives)

section Inheriting

variable (gathered : Declared.ofEntries entries = .ok declared)
  (checked : declared.directives entries = .ok directives)
  (inheriting : ∀ entry ∈ entries, entry.Inheriting)

include checked inheriting

/-- What a template knows comes from directives for the subjects of the relation. -/
theorem bequeaths_of_template {directive : Directive} (listed : directive ∈ directives)
    {place : Nat} (given : (key, value) ∈ directive.templateProperties place) :
    directive.Bequeaths place key value := by
  obtain ⟨entry, inside, directs⟩ := exists_entry checked listed
  obtain ⟨name, action, pattern, among, rfl, -⟩ := Directive.mem_templateProperties.mp given
  obtain ⟨other, single, bequeaths⟩ := bequeaths_of_directs directs (inheriting entry inside) action
    (List.ne_nil_of_mem among)
  obtain rfl : pattern = other := by simpa [single] using among
  exact bequeaths

/-- An element about which nothing is said by name gets a property through memberships only. -/
theorem mem_consequences_inherited (inside : id.toNat < declared.catalog.size)
    (unstated : ∀ entry ∈ entries, entry.stated? key (declared.nameOf id) = none)
    {provenance : Provenance} :
    .property id key value provenance ∈ declared.consequences directives ↔
      ∃ directive ∈ directives, ∃ place, directive.Bequeaths place key value ∧
        ∃ membership ∈ (declared.closed directives).membersAt place, membership.subject = id ∧
          provenance = .inherited membership.origin directive.ordinal := by
  constructor
  · intro listed
    obtain ⟨directive, given, among⟩ := List.mem_flatMap.mp listed
    obtain ⟨row, -, position, success⟩ := Directive.exists_row_of_mem_consequences among
    obtain ⟨entry, standing, directs⟩ := exists_entry checked given
    obtain ⟨subject, action, -, same⟩ := Directive.consequence?_property success
    have under : directive.patterns ≠ [] := by
      intro top
      have explicit : provenance = .explicit directive.ordinal := by
        rw [same]
        simp [Directive.provenance, top]
      rw [explicit, mem_consequences_explicit checked inside] at listed
      obtain ⟨other, stands, states⟩ := listed
      rw [unstated other (List.mem_of_getElem? stands)] at states
      cases states
    obtain ⟨pattern, -, bequeaths⟩ :=
      bequeaths_of_directs directs (inheriting entry standing) action under
    exact ⟨directive, given, _, bequeaths,
      (Directive.mem_consequences_of_bequeaths bequeaths _).mp among⟩
  · rintro ⟨directive, given, place, bequeaths, held⟩
    exact List.mem_flatMap.mpr ⟨directive, given,
      (Directive.mem_consequences_of_bequeaths bequeaths _).mpr held⟩

omit inheriting in
/-- Who inherits by a directive has a membership in a relation whose template knows the property. -/
theorem bequest_of_bequeaths {directive : Directive} (listed : directive ∈ directives) {place : Nat}
    (bequeaths : directive.Bequeaths place key value) {membership : Membership}
    (held : membership ∈ (declared.closed directives).membersAt place)
    (subject : membership.subject = id) :
    ∃ relation, (declared.ruleSet directives).Bequest key id relation membership := by
  obtain ⟨entry, -, directs⟩ := exists_entry checked listed
  have given := Directive.mem_templateProperties_of_bequeaths bequeaths
  obtain ⟨name, names, -, patterns, -⟩ := bequeaths
  obtain ⟨clause, -, comes⟩ := exists_of_mem_right directs.patterns
    (patterns ▸ List.mem_singleton_self _)
  cases stands : (declared.closed directives).relations[place]? with
  | none => simp [Registry.membersAt, stands] at held
  | some relation =>
      rw [Registry.membersAt, stands] at held
      refine ⟨relation, ⟨clause.relation, ?_⟩, held, subject, ?_⟩
      · have found : (declared.closed directives).names.find? clause.relation = some place := by
          rw [names_closed]
          exact comes.relation
        change (declared.closed directives).get clause.relation = .ok relation
        rw [Registry.get, found, Option.bind_some, stands]
      · rw [templated_closed declared directives place relation stands]
        exact isSome_get?_templateOf listed given

/-- A template has its value from the last directive for the subjects of the relation. -/
theorem exists_of_bequest {relation : Relation} {membership : Membership}
    (bequest : (declared.ruleSet directives).Bequest key id relation membership)
    (given : relation.template.get? key = some value) :
    ∃ place, membership ∈ (declared.closed directives).membersAt place ∧
      ∃ directive ∈ directives, directive.Bequeaths place key value ∧
        ∀ other ∈ directives, ∀ value, other.Bequeaths place key value →
          other.ordinal ≤ directive.ordinal := by
  obtain ⟨name, got⟩ := bequest.named
  change (declared.closed directives).get name = .ok relation at got
  rw [Registry.get] at got
  cases bound : ((declared.closed directives).names.find? name).bind
      ((declared.closed directives).relations[·]?) with
  | none => simp [bound] at got
  | some found =>
      obtain rfl : found = relation := by simpa [bound] using got
      obtain ⟨place, -, stands⟩ := Option.bind_eq_some_iff.mp bound
      refine ⟨place, ?_, ?_⟩
      · rw [Registry.membersAt, stands]
        exact bequest.member
      · rw [templated_closed declared directives place found stands] at given
        obtain ⟨directive, listed, contributes, last⟩ :=
          exists_of_get?_templateOf (pairwise_ordinal checked) given
        exact ⟨directive, listed, bequeaths_of_template checked inheriting listed contributes,
          fun other among value bequeaths => last other among value
            (Directive.mem_templateProperties_of_bequeaths bequeaths)⟩

section Unstated

variable (inside : id.toNat < declared.catalog.size)
  (unstated : ∀ entry ∈ entries, entry.stated? key (declared.nameOf id) = none)

include inside unstated

/-- What the template says for a bequest is among the consequences, with the origin of the
membership and the number of the last statement for the subjects of the relation. -/
theorem exists_consequence_of_bequest {relation : Relation} {membership : Membership}
    (bequest : (declared.ruleSet directives).Bequest key id relation membership)
    (given : relation.template.get? key = some value) :
    ∃ place, membership ∈ (declared.closed directives).membersAt place ∧
      ∃ directive ∈ directives, directive.Bequeaths place key value ∧
        (∀ other ∈ directives, ∀ value, other.Bequeaths place key value →
          other.ordinal ≤ directive.ordinal) ∧
        .property id key value (.inherited membership.origin directive.ordinal) ∈
          declared.consequences directives := by
  obtain ⟨place, held, directive, listed, bequeaths, last⟩ :=
    exists_of_bequest checked inheriting bequest given
  have applies := (mem_consequences_inherited checked inheriting inside unstated).mpr
    ⟨directive, listed, place, bequeaths, membership, held, bequest.subject, rfl⟩
  exact ⟨place, held, directive, listed, bequeaths, last, applies⟩

variable {winner : Directive} {place : Nat} {member : Membership} (among : winner ∈ directives)
  (gives : winner.Bequeaths place key value)
  (held : member ∈ (declared.closed directives).membersAt place)
  (greatest : ∀ other later, .property id key other later ∈ declared.consequences directives →
    later.le (.inherited member.origin winner.ordinal) = true)

include among gives held greatest

/-- The membership that the winning consequence comes from is the latest bequest. -/
theorem exists_latestBequest (subject : member.subject = id) :
    ∃ relation, (declared.ruleSet directives).LatestBequest key id relation member := by
  obtain ⟨relation, bequest⟩ := bequest_of_bequeaths checked among gives held subject
  refine ⟨relation, bequest, fun other membership otherBequest => ?_⟩
  obtain ⟨given, known⟩ := Option.isSome_iff_exists.mp otherBequest.known
  obtain ⟨-, -, directive, -, -, -, applies⟩ :=
    exists_consequence_of_bequest checked inheriting inside unstated otherBequest known
  exact Provenance.origin_le (greatest _ _ applies)

include gathered

/-- The template of the latest bequest has the value of the winning consequence. -/
theorem template_of_latestBequest (subject : member.subject = id) {relation : Relation}
    {membership : Membership}
    (latest : (declared.ruleSet directives).LatestBequest key id relation membership) :
    relation.template.get? key = some value := by
  obtain ⟨other, winning⟩ :=
    exists_latestBequest checked inheriting inside unstated among gives held greatest subject
  obtain ⟨given, known⟩ := Option.isSome_iff_exists.mp latest.known
  obtain ⟨elsewhere, there, directive, listed, bequeaths, last, applies⟩ :=
    exists_consequence_of_bequest checked inheriting inside unstated latest.toBequest known
  -- origins tell memberships apart, so both are the same membership of one relation
  have origins : member.origin = membership.origin :=
    Origin.le_antisymm (latest.latest _ _ winning.toBequest) (winning.latest _ _ latest.toBequest)
  obtain ⟨rfl, rfl⟩ := (numbered_closed gathered directives).unique _ _ _ held _ there
    (congrArg Origin.sequence origins)
  have earlier := Provenance.statement_le (greatest _ _ applies)
  have later := last winner among _ gives
  obtain rfl := eq_of_ordinal checked listed among (Nat.le_antisymm earlier later)
  obtain ⟨name, names, -, -, action⟩ := gives
  obtain ⟨otherName, otherNames, -, -, otherAction⟩ := bequeaths
  cases action.symm.trans otherAction
  exact known

end Unstated

include gathered

/-- An element about which nothing is said by name has what its latest bequest says, and zero
without any. -/
theorem value_of_unstated (inside : id.toNat < declared.catalog.size)
    (unstated : ∀ entry ∈ entries, entry.stated? key (declared.nameOf id) = none) :
    (∀ relation membership,
      (declared.ruleSet directives).LatestBequest key id relation membership →
        relation.template.get? key =
          some (((declared.ruleSet directives).elements.properties id).get key)) ∧
    ((∃ relation membership,
        (declared.ruleSet directives).LatestBequest key id relation membership) ∨
      (∀ relation membership, ¬(declared.ruleSet directives).Bequest key id relation membership) ∧
        ((declared.ruleSet directives).elements.properties id).get key = Single.zero) := by
  rcases value_ruleSet gathered directives inside key with
    ⟨provenance, wins, greatest⟩ | ⟨absent, zero⟩
  · obtain ⟨winner, among, place, gives, member, held, subject, rfl⟩ :=
      (mem_consequences_inherited checked inheriting inside unstated).mp wins
    obtain ⟨relation, winning⟩ :=
      exists_latestBequest checked inheriting inside unstated among gives held greatest subject
    refine ⟨fun other membership latest => ?_, Or.inl ⟨relation, member, winning⟩⟩
    exact template_of_latestBequest gathered checked inheriting inside unstated among gives held
      greatest subject latest
  · have unbequeathed (relation : Relation) (membership : Membership) :
        ¬(declared.ruleSet directives).Bequest key id relation membership := by
      intro bequest
      obtain ⟨given, known⟩ := Option.isSome_iff_exists.mp bequest.known
      obtain ⟨-, -, directive, -, -, -, applies⟩ :=
        exists_consequence_of_bequest checked inheriting inside unstated bequest known
      exact absent _ _ applies
    refine ⟨fun relation membership latest => ?_, Or.inr ⟨unbequeathed, zero⟩⟩
    exact absurd latest.toBequest (unbequeathed _ _)

end Inheriting

end Declared

/-- An element that by its name is in the relation of a clause has a bequest of what is stated about
the subjects of the clause. -/
theorem Declarations.exists_bequest {declarations : Declarations} {rules : RuleSet}
    (compiled : declarations.compile = .ok rules) (there : id.toNat < rules.elements.size)
    {entry : Entry} (listed : entry ∈ declarations.entries) (inheriting : entry.Inheriting)
    {clause : Clause} (clauses : entry.clauses = [clause]) {subject : Term}
    (statement : entry.statement = .property key subject value) {names : List String}
    (follows : Follows declarations.entries clause.relation (rules.elements.nameOf id :: names)) :
    ∃ relation membership, rules.Bequest key id relation membership := by
  obtain ⟨declared, directives, gathered, checked, -, rfl⟩ := compile_eq_ok_iff.mp compiled
  rw [Declared.size_ruleSet] at there
  rw [Declared.nameOf_ruleSet there] at follows
  obtain ⟨directive, among, directs⟩ :=
    Declared.exists_directive checked listed (by rw [statement]; rfl)
  obtain ⟨slot, action, -⟩ := Declared.exists_property directs statement
  obtain ⟨pattern, same, comes⟩ := Declared.exists_pattern_of_single directs clauses
  have under : directive.patterns ≠ [] := by
    rw [same]
    exact List.cons_ne_nil _ _
  obtain ⟨other, single, bequeaths⟩ :=
    Declared.bequeaths_of_directs directs inheriting action under
  obtain rfl : pattern = other := (List.cons.inj (same.symm.trans single)).1
  -- the element of that name is the subject of a membership of the relation
  obtain ⟨tuple, held, called⟩ := Declared.held_of_follows gathered checked follows
  obtain ⟨place, found, stands⟩ := Registry.mem_tuplesOf.mp held
  rw [Declared.names_closed] at found
  obtain rfl := Option.some.inj (found.symm.trans comes.relation)
  obtain ⟨membership, member, rfl⟩ := List.mem_map.mp stands
  rw [Membership.tuple, List.map_cons, List.cons.injEq] at called
  have known := Declared.lt_of_held gathered checked held membership.subject List.mem_cons_self
  have places := Declared.find?_nameOf there
  rw [← called.1, Declared.find?_nameOf known] at places
  obtain ⟨relation, bequest⟩ := Declared.bequest_of_bequeaths checked among bequeaths
    (Array.mem_toList_iff.mp member) (ElementId.toNat_injective (Option.some.inj places))
  exact ⟨relation, membership, bequest⟩

/-- What a property of an element of a compiled mod gets.  The last statement at the top that gives
the property to the element by name decides, whatever is said under clauses.  Without such a
statement, and if every property statement under clauses is about the subject of its only clause,
the value is the one in the template of the relation that the element has joined with the greatest
origin, among those whose templates know the property, or zero if there is none. -/
theorem Declarations.compile_inherits {declarations : Declarations} {rules : RuleSet}
    (compiled : declarations.compile = .ok rules) {id : ElementId}
    (there : id.toNat < rules.elements.size) (key : PropertyKey) :
    (∀ value, (declarations.stated key (rules.elements.nameOf id)).getLast? = some value →
      (rules.elements.properties id).get key = value) ∧
    (declarations.stated key (rules.elements.nameOf id) = [] →
      (∀ entry ∈ declarations.entries, entry.Inheriting) →
        (∀ relation membership, rules.LatestBequest key id relation membership →
          relation.template.get? key = some ((rules.elements.properties id).get key)) ∧
        ((∃ relation membership, rules.LatestBequest key id relation membership) ∨
          (∀ relation membership, ¬rules.Bequest key id relation membership) ∧
            (rules.elements.properties id).get key = Single.zero)) := by
  obtain ⟨declared, directives, gathered, checked, -, rfl⟩ := compile_eq_ok_iff.mp compiled
  rw [Declared.size_ruleSet] at there
  rw [Declared.nameOf_ruleSet there, stated]
  refine ⟨fun value last => Declared.value_of_stated gathered checked there last, ?_⟩
  intro unnamed inheriting
  have unstated : ∀ entry ∈ declarations.entries,
      entry.stated? key (declared.nameOf id) = none := List.filterMap_eq_nil_iff.mp unnamed
  exact Declared.value_of_unstated gathered checked inheriting there unstated

/-- Liquids, of which one says by itself how dense it is. -/
def floating : Declarations :=
  [.element "Water" "#4080ff", .element "Oil" "#806020", .relation "Liquid" 1,
    .member "Liquid" [.element "Water"], .member "Liquid" [.element "Oil"],
    .property .density (.element "Oil") Single.half,
    .block [⟨"Liquid", [.var "liquid"]⟩] [.property .density (.var "liquid") Single.one]]

theorem floating_inherits : ∃ rules, floating.compile = .ok rules ∧
    rules.elements.nameOf ⟨1⟩ = "Water" ∧ rules.elements.nameOf ⟨2⟩ = "Oil" ∧
    (rules.elements.properties ⟨2⟩).get .density = Single.half ∧
    ∃ relation membership, rules.LatestBequest .density ⟨1⟩ relation membership ∧
      relation.template.get? .density = some ((rules.elements.properties ⟨1⟩).get .density) := by
  have compiles : Succeeds floating.compile := Declarations.compile_succeeds (by decide)
    ⟨by decide, by decide, by decide, by decide⟩ (by decide) (by decide)
  obtain ⟨rules, compiled⟩ := compiles
  have waterListed : (Vocabulary.initial.extend floating.entries).elements[1]? = some "Water" := by
    decide
  have oilListed : (Vocabulary.initial.extend floating.entries).elements[2]? = some "Oil" := by
    decide
  obtain ⟨waterInside, water⟩ := Declarations.nameOf_of_vocabulary compiled ⟨1⟩ waterListed
  obtain ⟨oilInside, oil⟩ := Declarations.nameOf_of_vocabulary compiled ⟨2⟩ oilListed
  have ofWater := Declarations.compile_inherits compiled waterInside .density
  have ofOil := Declarations.compile_inherits compiled oilInside .density
  rw [water] at ofWater
  rw [oil] at ofOil
  have single : ∀ entry ∈ floating.entries, entry.Inheriting := by
    simp [floating, Declarations.entries, Statement.entriesFrom, Statement.entries,
      Entry.Inheriting, Term.var?]
  refine ⟨rules, compiled, water, oil, ofOil.1 Single.half (by decide), ?_⟩
  obtain ⟨known, ⟨relation, membership, latest⟩ | ⟨unbequeathed, -⟩⟩ := ofWater.2 (by decide) single
  · exact ⟨relation, membership, latest, known _ _ latest⟩
  · have joins : ⟨[3], [], .member "Liquid" [.element "Water"]⟩ ∈ floating.entries := by
      simp [floating, Declarations.entries, Statement.entriesFrom, Statement.entries]
    have follows : Follows floating.entries "Liquid" ["Water"] :=
      @Follows.member _ _ _ _ (fun name => name) joins rfl (by simp)
    have listed : ⟨[6, 0], [⟨"Liquid", [.var "liquid"]⟩],
        .property .density (.var "liquid") Single.one⟩ ∈ floating.entries := by
      simp [floating, Declarations.entries, Statement.entriesFrom, Statement.entries]
    obtain ⟨relation, membership, bequest⟩ := Declarations.exists_bequest compiled waterInside
      listed (single _ listed) rfl rfl (water ▸ follows)
    exact absurd bequest (unbequeathed relation membership)

end FallingSand
