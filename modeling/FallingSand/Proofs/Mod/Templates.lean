import FallingSand.Proofs.Mod.Assigned
import FallingSand.Proofs.Mod.Named

/-!
# What templates are worth

A template lists what statements say about the subjects of a relation, whatever else their clauses
ask for.  What it lists applies to the subjects that the statement reaches.  They have the tag, and
they have the value unless something else that is said about them outranks it.
-/

namespace FallingSand

/-! ## Clauses about the subjects of a relation -/

namespace Entry

/-- One of the clauses asks for tuples of the relation that begin with the variable. -/
def Begins (entry : Entry) (relation name : String) : Prop :=
  ∃ clause ∈ entry.clauses, clause.relation = relation ∧ clause.terms.head? = some (.var name)

/-- The only clause asks for tuples of the relation, and its terms are different variables, of which
this one is the first. -/
def BeginsAll (entry : Entry) (relation name : String) : Prop :=
  ∃ names : List String, (name :: names).Nodup ∧
    entry.clauses = [⟨relation, (name :: names).map Term.var⟩]

/-- The term is a variable, and the first of the clauses that mention it begins with it. -/
def Leads (entry : Entry) (term : Term) : Prop :=
  ∃ name clause, term = .var name ∧ entry.clauses.find? (Clause.mentions name) = some clause ∧
    clause.terms.head? = some (.var name)

end Entry

/-- The property statement is the last one about the subjects of the relation, which it calls by the
name, and gives them the value. -/
structure LastAbout (entries : List Entry) (relation : String) (key : PropertyKey)
    (entry : Entry) (name : String) (value : Single) : Prop where
  /-- It gives the value to the variable. -/
  statement : entry.statement = .property key (.var name) value
  /-- It is about the subjects of the relation. -/
  begins : entry.Begins relation name
  /-- None of those that stand behind it is. -/
  last : ∃ ordinal : Nat, entries[ordinal]? = some entry ∧
    ∀ later other, ordinal < later → entries[later]? = some other →
      ∀ name value, other.statement = .property key (.var name) value →
        ¬other.Begins relation name

/-- All statements under clauses that give a property to the element of the name lead with what they
are about. -/
def AllLead (entries : List Entry) (key : PropertyKey) (name : String) : Prop :=
  ∀ entry ∈ entries, ∀ term value, entry.statement = .property key term value →
    entry.clauses ≠ [] → Reaches entries entry.clauses term name → entry.Leads term

/-- The subject of the membership is that of no other membership of any relation. -/
def RuleSet.OnlyMembership (rules : RuleSet) (relation : Relation) (membership : Membership) :
    Prop :=
  ∀ other ∈ rules.registry.relations, ∀ held ∈ other.members, held.subject = membership.subject →
    other.name = relation.name ∧ held = membership

namespace Declared

variable {declared : Declared} {directives : List Directive} {entries : List Entry}
  {entry : Entry} {directive : Directive} {id : ElementId} {key : PropertyKey} {value : Single}
  {text name : String} {place : Nat} {relation : Relation} {membership : Membership}

/-- Only a variable stands for what a row gives to the variable. -/
theorem eq_var_of_resolves {term : Term} (resolves : declared.Resolves term (.var name)) :
    term = .var name := by
  cases term with
  | var other => exact congrArg _ (Slot.var.inj (resolves_var.mp resolves)).symm
  | element other =>
      obtain ⟨place, -, impossible⟩ := resolves_element resolves
      cases impossible

theorem property_var_iff (directs : declared.Directs entry directive) :
    directive.action = .property key (.var name) value ↔
      entry.statement = .property key (.var name) value := by
  constructor
  · intro action
    obtain ⟨subject, statement, resolves⟩ := property_of_directs directs action
    rw [statement, eq_var_of_resolves resolves.1]
  · intro statement
    obtain ⟨slot, action, resolves⟩ := exists_property directs statement
    rw [action, resolves_var.mp resolves.1]

theorem tag_var_iff (directs : declared.Directs entry directive) :
    directive.action = .tag (.var name) text ↔ entry.statement = .tag (.var name) text := by
  constructor
  · intro action
    obtain ⟨subject, statement, resolves⟩ := tag_of_directs directs action
    rw [statement, eq_var_of_resolves resolves.1]
  · intro statement
    obtain ⟨slot, action, resolves⟩ := exists_tag directs statement
    rw [action, resolves_var.mp resolves.1]

section Closed

variable (gathered : Declared.ofEntries entries = .ok declared)
  (stands : (declared.closed directives).relations[place]? = some relation)

include gathered stands

theorem place_of_matches {clause : Clause} {pattern : Pattern}
    (comes : declared.Matches clause pattern) (same : clause.relation = relation.name) :
    pattern.relation = place := by
  have found := (aligned_closed gathered directives).find? stands
  rw [names_closed, ← same, comes.relation] at found
  exact Option.some.inj found

/-- Clauses about the subjects of a relation are patterns about those of the relation there. -/
theorem begins_iff (directs : declared.Directs entry directive) :
    (∃ pattern ∈ directive.patterns, pattern.relation = place ∧
      pattern.slots.head? = some (.var name)) ↔ entry.Begins relation.name name := by
  constructor
  · rintro ⟨pattern, picked, rfl, first⟩
    obtain ⟨clause, inside, comes⟩ := exists_of_mem_right directs.patterns picked
    exact ⟨clause, inside, (name_of_find? gathered stands comes.relation).symm,
      (head?_iff comes).mp first⟩
  · rintro ⟨clause, inside, same, first⟩
    obtain ⟨pattern, picked, comes⟩ := exists_of_mem_left directs.patterns inside
    exact ⟨pattern, picked, place_of_matches gathered stands comes same,
      (head?_iff comes).mpr first⟩

/-- A template has the values of the statements about the subjects of its relation. -/
theorem mem_templateProperties_iff (directs : declared.Directs entry directive) :
    (key, value) ∈ directive.templateProperties place ↔
      ∃ name, entry.statement = .property key (.var name) value ∧
        entry.Begins relation.name name := by
  simp only [Directive.mem_templateProperties, property_var_iff directs,
    begins_iff gathered stands directs]

/-- A template has the tags of the statements about the subjects of its relation. -/
theorem mem_templateTags_iff (directs : declared.Directs entry directive) :
    text ∈ directive.templateTags place ↔
      ∃ name, entry.statement = .tag (.var name) text ∧ entry.Begins relation.name name := by
  simp only [Directive.mem_templateTags, tag_var_iff directs, begins_iff gathered stands directs]

variable (checked : declared.directives entries = .ok directives)

include checked

theorem mem_tags_iff : text ∈ relation.template.tags ↔
    ∃ entry ∈ entries, ∃ name, entry.statement = .tag (.var name) text ∧
      entry.Begins relation.name name := by
  rw [templated_closed declared directives place relation stands]
  constructor
  · intro listed
    obtain ⟨directive, given, contributes⟩ := List.mem_flatMap.mp listed
    obtain ⟨entry, standing, directs⟩ := exists_entry checked given
    exact ⟨entry, standing, (mem_templateTags_iff gathered stands directs).mp contributes⟩
  · rintro ⟨entry, standing, name, statement, begins⟩
    obtain ⟨directive, given, directs⟩ :=
      exists_directive checked standing (by rw [statement]; rfl)
    exact List.mem_flatMap.mpr ⟨directive, given,
      (mem_templateTags_iff gathered stands directs).mpr ⟨name, statement, begins⟩⟩

/-- A template knows a property that a statement gives to the subjects of its relation. -/
theorem isSome_get?_of_begins (standing : entry ∈ entries)
    (statement : entry.statement = .property key (.var name) value)
    (begins : entry.Begins relation.name name) : (relation.template.get? key).isSome = true := by
  rw [templated_closed declared directives place relation stands]
  obtain ⟨directive, given, directs⟩ := exists_directive checked standing (by rw [statement]; rfl)
  exact isSome_get?_templateOf given
    ((mem_templateProperties_iff gathered stands directs).mpr ⟨name, statement, begins⟩)

/-- The value in a template is that of the last statement about the subjects of its relation. -/
theorem exists_lastAbout (known : relation.template.get? key = some value) :
    ∃ entry name, LastAbout entries relation.name key entry name value := by
  rw [templated_closed declared directives place relation stands] at known
  obtain ⟨directive, given, contributes, last⟩ :=
    exists_of_get?_templateOf (pairwise_ordinal checked) known
  obtain ⟨entry, numbered, directs⟩ := exists_entry_at checked given
  obtain ⟨name, statement, begins⟩ :=
    (mem_templateProperties_iff gathered stands directs).mp contributes
  refine ⟨entry, name, statement, begins, directive.ordinal, numbered, ?_⟩
  intro later other after there called assigned otherStatement otherBegins
  obtain ⟨another, among, rfl, otherDirects⟩ :=
    exists_directive_at checked there (by rw [otherStatement]; rfl)
  have earlier := last another among assigned
    ((mem_templateProperties_iff gathered stands otherDirects).mpr
      ⟨called, otherStatement, otherBegins⟩)
  exact absurd after (Nat.not_lt.mpr earlier)

end Closed

theorem tuple_mem_tuplesOf (gathered : Declared.ofEntries entries = .ok declared)
    (listed : relation ∈ (declared.closed directives).relations)
    (member : membership ∈ relation.members) :
    membership.tuple ∈ (declared.closed directives).tuplesOf relation.name := by
  obtain ⟨place, stands⟩ := Array.getElem?_of_mem listed
  refine Registry.mem_tuplesOf.mpr ⟨place, (aligned_closed gathered directives).find? stands, ?_⟩
  rw [Registry.tuplesAt, Registry.membersAt, stands]
  exact List.mem_map.mpr ⟨membership, Array.mem_toList_iff.mpr member, rfl⟩

/-- Relations are told apart by their names, and their memberships by the tuples. -/
theorem eq_of_tuple (gathered : Declared.ofEntries entries = .ok declared)
    (listed : relation ∈ (declared.closed directives).relations)
    (member : membership ∈ relation.members) {other : Relation}
    (among : other ∈ (declared.closed directives).relations) {held : Membership}
    (inside : held ∈ other.members) (called : other.name = relation.name)
    (tuples : held.tuple = membership.tuple) : held = membership := by
  obtain ⟨place, stands⟩ := Array.getElem?_of_mem listed
  obtain ⟨elsewhere, there⟩ := Array.getElem?_of_mem among
  have found := (aligned_closed gathered directives).find? there
  rw [called, (aligned_closed gathered directives).find? stands] at found
  obtain rfl := Option.some.inj found
  obtain rfl := Option.some.inj (stands.symm.trans there)
  have distinct := distinct_closed gathered directives place
  rw [Registry.tuplesAt, Registry.membersAt, stands] at distinct
  exact List.inj_on_of_nodup_map distinct (Array.mem_toList_iff.mpr inside)
    (Array.mem_toList_iff.mpr member) tuples

/-! ## Subjects that are reached -/

section Reached

variable (gathered : Declared.ofEntries entries = .ok declared)
  (checked : declared.directives entries = .ok directives)

include gathered checked

theorem lt_of_mem_members (listed : relation ∈ (declared.closed directives).relations)
    (member : membership ∈ relation.members) :
    ∀ id ∈ membership.tuple, id.toNat < declared.catalog.size :=
  lt_of_held gathered checked (tuple_mem_tuplesOf gathered listed member)

/-- The tuple of a membership follows. -/
theorem follows_of_mem_members (listed : relation ∈ (declared.closed directives).relations)
    (member : membership ∈ relation.members) :
    Follows entries relation.name (membership.tuple.map declared.nameOf) :=
  (follows_iff gathered checked).mpr
    ⟨membership.tuple, tuple_mem_tuplesOf gathered listed member, rfl⟩

/-- A statement about all subjects of a relation reaches each of them. -/
theorem reaches_of_beginsAll (directs : declared.Directs entry directive)
    (begins : entry.BeginsAll relation.name name)
    (listed : relation ∈ (declared.closed directives).relations)
    (member : membership ∈ relation.members) :
    Reaches entries entry.clauses (.var name) (declared.nameOf membership.subject) := by
  obtain ⟨names, distinct, clauses⟩ := begins
  obtain ⟨place, stands⟩ := Array.getElem?_of_mem listed
  obtain ⟨pattern, single, comes⟩ := exists_pattern_of_single directs clauses
  -- the only pattern asks for all tuples of the relation there
  have slots : pattern.slots = (name :: names).map Slot.var := forall₂_resolves_var comes.slots
  have there : pattern.relation = place := place_of_matches gathered stands comes rfl
  obtain ⟨row, extended, bound⟩ := Row.exists_extend?_empty distinct place membership
  have whole : pattern = ⟨place, (name :: names).map Slot.var⟩ := by
    rw [← there, ← slots]
  have resolves : declared.ResolvesUnder entry.clauses (.var name) (.var name) := by
    refine ⟨resolves_var.mpr rfl, ?_⟩
    rintro other ⟨⟩
    exact ⟨_, clauses ▸ List.mem_singleton_self _, List.mem_cons_self⟩
  have inside := lt_of_mem_members gathered checked listed member _ List.mem_cons_self
  refine (reaches_iff gathered checked directs resolves inside).mpr ⟨row, ?_, ?_⟩
  · rw [single, whole, Registry.rows_singleton, Registry.membersAt, stands]
    exact List.mem_filterMap.mpr ⟨membership, Array.mem_toList_iff.mpr member, extended⟩
  · rw [Row.element?, bound]
    rfl

section Only

variable (only : (declared.ruleSet directives).OnlyMembership relation membership)

include only

/-- If a statement leads with what it is about, it tells about the subject of an only membership as
that of its relation, with the origin of the membership. -/
theorem origin_of_leads (directs : declared.Directs entry directive) {row : Row}
    (listed : row ∈ (declared.closed directives).rows directive.patterns) {term : Term}
    (leads : entry.Leads term) {slot : Slot} (resolves : declared.Resolves term slot)
    (found : row.element? slot = some membership.subject) :
    directive.provenance row slot = .inherited membership.origin directive.ordinal ∧
      ∃ name, term = .var name ∧ entry.Begins relation.name name := by
  obtain ⟨name, clause, rfl, first, opens⟩ := leads
  obtain rfl := resolves_var.mp resolves
  obtain ⟨other, among, same, held, member, subject, provenance⟩ :=
    exists_membership_of_first gathered checked directs listed first opens found
  obtain ⟨called, rfl⟩ := only other among held member subject
  exact ⟨provenance, name, rfl, clause, List.mem_of_find?_eq_some first, by rw [← same, called],
    opens⟩

section Led

variable (inside : membership.subject.toNat < declared.catalog.size)
  (unstated : ∀ entry ∈ entries, entry.stated? key (declared.nameOf membership.subject) = none)
  (led : AllLead entries key (declared.nameOf membership.subject))

include inside led

/-- A statement that leads with what it is about gives the value with the origin of the
membership. -/
theorem mem_consequences_of_led {ordinal : Nat} (numbered : entries[ordinal]? = some entry)
    {term : Term} (statement : entry.statement = .property key term value)
    (under : entry.clauses ≠ [])
    (reaches : Reaches entries entry.clauses term (declared.nameOf membership.subject)) :
    .property membership.subject key value (.inherited membership.origin ordinal) ∈
      declared.consequences directives := by
  have leads := led entry (List.mem_of_getElem? numbered) term value statement under reaches
  obtain ⟨directive, slot, rfl, directs, resolves, row, picked, found, applies⟩ :=
    exists_consequence_of_reaches gathered checked inside numbered statement reaches
  rwa [(origin_of_leads gathered checked only directs picked leads resolves found).1] at applies

include unstated

/-- What is said about the subject of an only membership is said about it as one of the subjects of
the relation. -/
theorem exists_source_of_led {provenance : Provenance}
    (listed : .property membership.subject key value provenance ∈
      declared.consequences directives) :
    ∃ ordinal entry, entries[ordinal]? = some entry ∧
      provenance = .inherited membership.origin ordinal ∧
        ∃ name, entry.statement = .property key (.var name) value ∧
          entry.Begins relation.name name := by
  obtain ⟨directive, -, entry, numbered, directs, term, slot, statement, action, resolves, reaches,
    row, picked, found, rfl⟩ := exists_source_of_property gathered checked inside listed
  have standing := List.mem_of_getElem? numbered
  have under : entry.clauses ≠ [] := by
    intro top
    have states := stated_of_action directs top action found
    rw [unstated entry standing] at states
    cases states
  have leads := led entry standing term value statement under reaches
  obtain ⟨origin, name, rfl, begins⟩ :=
    origin_of_leads gathered checked only directs picked leads resolves found
  exact ⟨directive.ordinal, entry, numbered, origin, name, statement, begins⟩

/-- The last statement about the subjects of the relation decides, if it reaches this one. -/
theorem value_of_led (lastAbout : LastAbout entries relation.name key entry name value)
    (reaches : Reaches entries entry.clauses (.var name) (declared.nameOf membership.subject)) :
    ((declared.ruleSet directives).elements.properties membership.subject).get key = value := by
  obtain ⟨statement, begins, ordinal, numbered, last⟩ := lastAbout
  have under : entry.clauses ≠ [] := by
    obtain ⟨clause, listed, -⟩ := begins
    exact List.ne_nil_of_mem listed
  have applies := mem_consequences_of_led gathered checked only inside led numbered statement
    under reaches
  refine value_of_inherited gathered inside numbered statement applies ?_
  intro assigned provenance listed
  obtain ⟨later, other, there, rfl, called, given, about⟩ :=
    exists_source_of_led gathered checked only inside unstated led listed
  exact ⟨later, other, .var called, there, given, rfl,
    fun after => last later other after there called assigned given about⟩

end Led

end Only

end Reached

end Declared

namespace Declarations

variable {declarations : Declarations} {rules : RuleSet}

/-- What follows is a membership. -/
theorem exists_membership_of_follows (compiled : declarations.compile = .ok rules) {name : String}
    {names : List String} (follows : Follows declarations.entries name names) :
    ∃ relation ∈ rules.registry.relations, relation.name = name ∧
      ∃ membership ∈ relation.members, membership.tuple.map rules.elements.nameOf = names := by
  obtain ⟨declared, directives, gathered, checked, -, rfl⟩ := compile_eq_ok_iff.mp compiled
  obtain ⟨tuple, held, called⟩ := Declared.held_of_follows gathered checked follows
  have small := Declared.lt_of_held gathered checked held
  obtain ⟨place, found, stands⟩ := Registry.mem_tuplesOf.mp held
  rw [Declared.names_closed] at found
  obtain ⟨membership, standing, rfl⟩ := Registry.mem_tuplesAt.mp stands
  obtain ⟨relation, stands, member⟩ := Declared.exists_relation_of_mem_membersAt standing
  refine ⟨relation, Array.mem_of_getElem? stands, Declared.name_of_find? gathered stands found,
    membership, member, ?_⟩
  rw [← called]
  exact List.map_congr_left fun id listed => Declared.nameOf_ruleSet (small id listed)

/-- If nothing else follows about the subject of a membership, it is its only one. -/
theorem onlyMembership_of_follows (compiled : declarations.compile = .ok rules)
    {relation : Relation} (listed : relation ∈ rules.registry.relations) {membership : Membership}
    (member : membership ∈ relation.members)
    (only : ∀ name names,
      Follows declarations.entries name (rules.elements.nameOf membership.subject :: names) →
        name = relation.name ∧ names = membership.args.map rules.elements.nameOf) :
    rules.OnlyMembership relation membership := by
  obtain ⟨declared, directives, gathered, checked, -, rfl⟩ := compile_eq_ok_iff.mp compiled
  intro other among held inside same
  have small := Declared.lt_of_mem_members gathered checked listed member
  have tiny := Declared.lt_of_mem_members gathered checked among inside
  have follows := Declared.follows_of_mem_members gathered checked among inside
  obtain ⟨here, smaller⟩ := List.forall_mem_cons.mp small
  obtain ⟨-, tinier⟩ := List.forall_mem_cons.mp tiny
  rw [Membership.tuple, List.map_cons, same, ← Declared.nameOf_ruleSet here] at follows
  obtain ⟨called, args⟩ := only other.name _ follows
  have tuples : held.tuple = membership.tuple := by
    rw [List.map_congr_left fun id among => Declared.nameOf_ruleSet (smaller id among)] at args
    rw [Membership.tuple, Membership.tuple, same,
      Declared.map_nameOf_injective tinier smaller args]
  exact ⟨called, Declared.eq_of_tuple gathered listed member among inside called tuples⟩

section Templates

variable (compiled : declarations.compile = .ok rules) {relation : Relation}
  (listed : relation ∈ rules.registry.relations) {entry : Entry}
  (standing : entry ∈ declarations.entries) {name : String}
  (begins : entry.Begins relation.name name)

include compiled listed standing begins

theorem mem_tags_of_begins {text : String} (statement : entry.statement = .tag (.var name) text) :
    text ∈ relation.template.tags := by
  obtain ⟨declared, directives, gathered, checked, -, rfl⟩ := compile_eq_ok_iff.mp compiled
  obtain ⟨place, stands⟩ := Array.getElem?_of_mem listed
  exact (Declared.mem_tags_iff gathered stands checked).mpr
    ⟨entry, standing, name, statement, begins⟩

/-- A template has the only value that there is for subjects of its relation. -/
theorem get?_of_begins {key : PropertyKey} {value : Single}
    (statement : entry.statement = .property key (.var name) value)
    (only : ∀ other ∈ declarations.entries, ∀ name given,
      other.statement = .property key (.var name) given → other.Begins relation.name name →
        given = value) :
    relation.template.get? key = some value := by
  obtain ⟨declared, directives, gathered, checked, -, rfl⟩ := compile_eq_ok_iff.mp compiled
  obtain ⟨place, stands⟩ := Array.getElem?_of_mem listed
  obtain ⟨given, known⟩ := Option.isSome_iff_exists.mp
    (Declared.isSome_get?_of_begins gathered stands checked standing statement begins)
  obtain ⟨other, called, gives, about, ordinal, numbered, -⟩ :=
    Declared.exists_lastAbout gathered stands checked known
  rw [known, only other (List.mem_of_getElem? numbered) called given gives about]

end Templates

/-- What the template of a relation of a compiled mod is worth.  A tag in it comes from a statement
about the first variable of a clause of the relation, and a value from the last such statement.  An
element has the tags of the statements that reach it, and a statement about all subjects of a
relation reaches each of them.  A subject has the value in the template if the statement reaches it,
it is the subject of no other membership, it is given the property nowhere at the top, and the
statements under clauses that give it to the subject lead with it. -/
theorem compile_templates (compiled : declarations.compile = .ok rules) {relation : Relation}
    (listed : relation ∈ rules.registry.relations) :
    (∀ text ∈ relation.template.tags, ∃ entry ∈ declarations.entries, ∃ name,
      entry.statement = .tag (.var name) text ∧ entry.Begins relation.name name) ∧
    (∀ membership ∈ relation.members, ∀ text,
      (rules.elements.get membership.subject).hasTag text = true ↔
        ∃ entry ∈ declarations.entries, ∃ term, entry.statement = .tag term text ∧
          Reaches declarations.entries entry.clauses term
            (rules.elements.nameOf membership.subject)) ∧
    (∀ entry ∈ declarations.entries, entry.statement.isSilent = false → ∀ name,
      entry.BeginsAll relation.name name → ∀ membership ∈ relation.members,
        Reaches declarations.entries entry.clauses (.var name)
          (rules.elements.nameOf membership.subject)) ∧
    ∀ key value, relation.template.get? key = some value →
      ∃ entry name, LastAbout declarations.entries relation.name key entry name value ∧
        ∀ membership ∈ relation.members, rules.OnlyMembership relation membership →
          declarations.stated key (rules.elements.nameOf membership.subject) = [] →
            AllLead declarations.entries key (rules.elements.nameOf membership.subject) →
              Reaches declarations.entries entry.clauses (.var name)
                (rules.elements.nameOf membership.subject) →
                (rules.elements.properties membership.subject).get key = value := by
  obtain ⟨declared, directives, gathered, checked, -, rfl⟩ := compile_eq_ok_iff.mp compiled
  obtain ⟨place, stands⟩ := Array.getElem?_of_mem listed
  have small (membership : Membership) (member : membership ∈ relation.members) :
      membership.subject.toNat < declared.catalog.size :=
    Declared.lt_of_mem_members gathered checked listed member _ List.mem_cons_self
  refine ⟨fun text => (Declared.mem_tags_iff gathered stands checked).mp, ?_, ?_, ?_⟩
  · intro membership member text
    rw [Declared.nameOf_ruleSet (small membership member)]
    exact Declared.hasTag_iff gathered checked (small membership member)
  · intro entry standing speaks name begins membership member
    rw [Declared.nameOf_ruleSet (small membership member)]
    obtain ⟨directive, -, directs⟩ := Declared.exists_directive checked standing speaks
    exact Declared.reaches_of_beginsAll gathered checked directs begins listed member
  · intro key value known
    obtain ⟨entry, name, lastAbout⟩ := Declared.exists_lastAbout gathered stands checked known
    refine ⟨entry, name, lastAbout, fun membership member only unnamed led reaches => ?_⟩
    rw [Declared.nameOf_ruleSet (small membership member)] at unnamed led reaches
    exact Declared.value_of_led gathered checked only (small membership member)
      (List.filterMap_eq_nil_iff.mp unnamed) led lastAbout reaches

/-- All powders are fine and of the same density. -/
def sifting : Declarations :=
  [.element "Salt" "#ffffff", .relation "Powder" 1, .member "Powder" [.element "Salt"],
    .block [⟨"Powder", [.var "grain"]⟩]
      [.tag (.var "grain") "Fine", .property .density (.var "grain") Single.one]]

theorem eq_of_follows_sifting {name : String} {names : List String}
    (follows : Follows sifting.entries name names) : name = "Powder" ∧ names = ["Salt"] := by
  obtain ⟨listed, statement, -⟩ := follows
  simp [sifting, entries, Statement.entriesFrom, Statement.entries] at listed
  rcases listed with rfl | rfl | rfl | rfl | rfl | rfl <;> cases statement
  exact ⟨rfl, rfl⟩

theorem eq_of_property_sifting {entry : Entry} (standing : entry ∈ sifting.entries)
    {key : PropertyKey} {term : Term} {value : Single}
    (statement : entry.statement = .property key term value) :
    entry = ⟨[3, 1], [⟨"Powder", [.var "grain"]⟩],
      .property .density (.var "grain") Single.one⟩ := by
  simp [sifting, entries, Statement.entriesFrom, Statement.entries] at standing
  rcases standing with rfl | rfl | rfl | rfl | rfl | rfl <;> cases statement
  rfl

theorem sifting_templates : ∃ rules, sifting.compile = .ok rules ∧
    ∃ relation ∈ rules.registry.relations, ∃ membership ∈ relation.members,
      ("Fine" ∈ relation.template.tags ∧
        (rules.elements.get membership.subject).hasTag "Fine" = true) ∧
      relation.template.get? .density = some Single.one ∧
        (rules.elements.properties membership.subject).get .density = Single.one := by
  have compiles : Succeeds sifting.compile := compile_succeeds (by decide)
    ⟨by decide, by decide, by decide, by decide⟩ (by decide) (by decide)
  obtain ⟨rules, compiled⟩ := compiles
  have joins : ⟨[2], [], .member "Powder" [.element "Salt"]⟩ ∈ sifting.entries := by
    simp [sifting, entries, Statement.entriesFrom, Statement.entries]
  have tags : ⟨[3, 0], [⟨"Powder", [.var "grain"]⟩], .tag (.var "grain") "Fine"⟩ ∈
      sifting.entries := by
    simp [sifting, entries, Statement.entriesFrom, Statement.entries]
  have weighs : ⟨[3, 1], [⟨"Powder", [.var "grain"]⟩],
      .property .density (.var "grain") Single.one⟩ ∈ sifting.entries := by
    simp [sifting, entries, Statement.entriesFrom, Statement.entries]
  have follows : Follows sifting.entries "Powder" ["Salt"] :=
    @Follows.member _ _ _ _ (fun name => name) joins rfl (by simp)
  obtain ⟨relation, listed, named, membership, member, called⟩ :=
    exists_membership_of_follows compiled follows
  obtain ⟨subject, args⟩ := List.cons.inj called
  have only : rules.OnlyMembership relation membership := by
    refine onlyMembership_of_follows compiled listed member fun name names follows => ?_
    obtain ⟨rfl, same⟩ := eq_of_follows_sifting follows
    exact ⟨named.symm, (List.cons.inj same).2.trans args.symm⟩
  have all (statement : Statement) (path : List Nat) :
      Entry.BeginsAll ⟨path, [⟨"Powder", [.var "grain"]⟩], statement⟩ relation.name "grain" :=
    named ▸ ⟨[], by simp, rfl⟩
  have begins (statement : Statement) (path : List Nat) :
      Entry.Begins ⟨path, [⟨"Powder", [.var "grain"]⟩], statement⟩ relation.name "grain" :=
    named ▸ ⟨_, List.mem_singleton_self _, rfl, rfl⟩
  obtain ⟨-, tagged, reached, valued⟩ := compile_templates compiled listed
  have known : relation.template.get? .density = some Single.one := by
    refine get?_of_begins compiled listed weighs (begins _ _) rfl ?_
    intro other inside name given statement _
    cases eq_of_property_sifting inside statement
    cases statement
    rfl
  refine ⟨rules, compiled, relation, listed, membership, member, ⟨?_, ?_⟩, known, ?_⟩
  · exact mem_tags_of_begins compiled listed tags (begins _ _) rfl
  · exact (tagged membership member "Fine").mpr
      ⟨_, tags, _, rfl, reached _ tags rfl _ (all _ _) membership member⟩
  · obtain ⟨entry, name, ⟨statement, about, ordinal, numbered, last⟩, decides⟩ :=
      valued .density Single.one known
    cases eq_of_property_sifting (List.mem_of_getElem? numbered) statement
    cases statement
    refine decides membership member only (by rw [subject]; rfl) ?_
      (reached _ weighs rfl _ (all _ _) membership member)
    intro other inside term value statement _ _
    cases eq_of_property_sifting inside statement
    cases statement
    exact ⟨"grain", _, rfl, rfl, rfl⟩

/-- The first of two elements that rub against each other. -/
def rubbing : Clause := ⟨"Rubs", [.var "grain", .var "other"]⟩

/-- Sand that rubs against itself would be glass and would fall if it was hot. -/
def glazing : Declarations :=
  [.element "Sand" "#d8e090", .relation "Rubs" 2, .relation "Hot" 1,
    .member "Rubs" [.element "Sand", .element "Sand"],
    .block [rubbing, ⟨"Hot", [.var "grain"]⟩]
      [.tag (.var "grain") "Glass", .property .gravity (.var "grain") Single.one],
    .block [rubbing]
      [.property .density (.var "grain") Single.one,
        .property .density (.element "Sand") Single.half,
        .property .spread (.var "grain") Single.one,
        .property .spread (.var "other") Single.half]]

theorem eq_of_follows_glazing {name : String} {names : List String}
    (follows : Follows glazing.entries name names) : name = "Rubs" ∧ names = ["Sand", "Sand"] := by
  obtain ⟨listed, statement, -⟩ := follows
  simp [glazing, entries, Statement.entriesFrom, Statement.entries] at listed
  rcases listed with rfl | rfl | rfl | rfl | rfl | rfl | rfl | rfl | rfl | rfl | rfl | rfl <;>
    cases statement
  exact ⟨rfl, rfl⟩

theorem follows_glazing : Follows glazing.entries "Rubs" ["Sand", "Sand"] := by
  have joins : ⟨[3], [], .member "Rubs" [.element "Sand", .element "Sand"]⟩ ∈ glazing.entries := by
    simp [glazing, entries, Statement.entriesFrom, Statement.entries]
  exact @Follows.member _ _ _ _ (fun name => name) joins rfl (by simp)

/-- The template has the tag and a value for three properties. -/
theorem template_glazing (compiled : glazing.compile = .ok rules) {relation : Relation}
    (listed : relation ∈ rules.registry.relations) (named : relation.name = "Rubs") :
    "Glass" ∈ relation.template.tags ∧
      relation.template.get? .gravity = some Single.one ∧
      relation.template.get? .density = some Single.one ∧
      relation.template.get? .spread = some Single.one := by
  have begins (path : List Nat) (clauses : List Clause) (statement : Statement) :
      Entry.Begins ⟨path, rubbing :: clauses, statement⟩ relation.name "grain" :=
    ⟨rubbing, List.mem_cons_self, named.symm, rfl⟩
  have tags : ⟨[4, 0], [rubbing, ⟨"Hot", [.var "grain"]⟩], .tag (.var "grain") "Glass"⟩ ∈
      glazing.entries := by
    simp [glazing, entries, Statement.entriesFrom, Statement.entries]
  have falls : ⟨[4, 1], [rubbing, ⟨"Hot", [.var "grain"]⟩],
      .property .gravity (.var "grain") Single.one⟩ ∈ glazing.entries := by
    simp [glazing, entries, Statement.entriesFrom, Statement.entries]
  have weighs : ⟨[5, 0], [rubbing], .property .density (.var "grain") Single.one⟩ ∈
      glazing.entries := by
    simp [glazing, entries, Statement.entriesFrom, Statement.entries]
  have spreads : ⟨[5, 2], [rubbing], .property .spread (.var "grain") Single.one⟩ ∈
      glazing.entries := by
    simp [glazing, entries, Statement.entriesFrom, Statement.entries]
  refine ⟨mem_tags_of_begins compiled listed tags (begins _ _ _) rfl,
    get?_of_begins compiled listed falls (begins _ _ _) rfl ?_,
    get?_of_begins compiled listed weighs (begins _ _ _) rfl ?_,
    get?_of_begins compiled listed spreads (begins _ _ _) rfl ?_⟩
  all_goals
    simp [glazing, entries, Statement.entriesFrom, Statement.entries, Entry.Begins, rubbing]

/-- The sand has neither the tag nor one of the values. -/
theorem values_glazing {declared : Declared} {directives : List Directive} {id : ElementId}
    (gathered : Declared.ofEntries glazing.entries = .ok declared)
    (checked : declared.directives glazing.entries = .ok directives)
    (inside : id.toNat < declared.catalog.size) (sand : declared.nameOf id = "Sand")
    {origin : Origin} (sole : ∀ relation ∈ (declared.closed directives).relations,
      relation.name = "Rubs" → ∀ membership ∈ relation.members, membership.origin = origin) :
    ¬((declared.ruleSet directives).elements.get id).hasTag "Glass" = true ∧
      ((declared.ruleSet directives).elements.properties id).get .gravity = Single.zero ∧
      ((declared.ruleSet directives).elements.properties id).get .density = Single.half ∧
      ((declared.ruleSet directives).elements.properties id).get .spread = Single.half := by
  have cold {clauses : List Clause} {term : Term}
      (hot : (⟨"Hot", [.var "grain"]⟩ : Clause) ∈ clauses) :
      ¬Reaches glazing.entries clauses term (declared.nameOf id) := by
    rintro ⟨names, -, follows⟩
    exact absurd (eq_of_follows_glazing (follows _ hot)).1 (by decide)
  have rubs (term : Term) (read : term.read (fun _ => "Sand") = "Sand") :
      Reaches glazing.entries [rubbing] term (declared.nameOf id) :=
    ⟨fun _ => "Sand", read.trans sand.symm,
      List.forall_mem_singleton.mpr follows_glazing⟩
  have tagged : ∀ entry ∈ glazing.entries, ∀ term text,
      entry.statement = .tag term text → (⟨"Hot", [.var "grain"]⟩ : Clause) ∈ entry.clauses := by
    simp [glazing, entries, Statement.entriesFrom, Statement.entries]
  have falls : ∀ entry ∈ glazing.entries, ∀ term value,
      entry.statement = .property .gravity term value →
        (⟨"Hot", [.var "grain"]⟩ : Clause) ∈ entry.clauses := by
    simp [glazing, entries, Statement.entriesFrom, Statement.entries]
  have rest (key : PropertyKey) (other : key ≠ .gravity) :
      ∀ entry ∈ glazing.entries, ∀ term value,
        entry.statement = .property key term value →
          entry.clauses = [rubbing] := by
    simp [glazing, entries, Statement.entriesFrom, Statement.entries,
      other.symm]
  have weighs : glazing.entries[9]? = some
      ⟨[5, 1], [rubbing], .property .density (.element "Sand") Single.half⟩ := rfl
  have spreads : glazing.entries[11]? = some
      ⟨[5, 3], [rubbing], .property .spread (.var "other") Single.half⟩ := rfl
  refine ⟨?_, ?_, ?_, ?_⟩
  · rw [Declared.hasTag_iff gathered checked inside]
    rintro ⟨entry, standing, term, statement, reaches⟩
    exact cold (tagged entry standing term _ statement) reaches
  · refine Declared.value_of_not_reached gathered checked inside
      fun entry standing term value statement => ?_
    exact cold (falls entry standing term value statement)
  · refine Declared.value_of_last gathered checked inside rubbing sole
      (rest _ (by decide)) weighs rfl ?_ (rubs _ rfl)
    simp [glazing, entries, Statement.entriesFrom, Statement.entries]
  · refine Declared.value_of_last gathered checked inside rubbing sole
      (rest _ (by decide)) spreads rfl ?_ (rubs _ rfl)
    simp [glazing, entries, Statement.entriesFrom, Statement.entries]

theorem glazing_templates : ∃ rules, glazing.compile = .ok rules ∧
    ∃ relation ∈ rules.registry.relations, ∃ membership ∈ relation.members,
      rules.OnlyMembership relation membership ∧
      (∀ key, glazing.stated key (rules.elements.nameOf membership.subject) = []) ∧
      ("Glass" ∈ relation.template.tags ∧
        ¬(rules.elements.get membership.subject).hasTag "Glass" = true) ∧
      (relation.template.get? .gravity = some Single.one ∧
        (rules.elements.properties membership.subject).get .gravity = Single.zero) ∧
      (relation.template.get? .density = some Single.one ∧
        (rules.elements.properties membership.subject).get .density = Single.half) ∧
      relation.template.get? .spread = some Single.one ∧
        (rules.elements.properties membership.subject).get .spread = Single.half := by
  have compiles : Succeeds glazing.compile := compile_succeeds (by decide)
    ⟨by decide, by decide, by decide, by decide⟩ (by decide) (by decide)
  obtain ⟨rules, compiled⟩ := compiles
  obtain ⟨relation, listed, named, membership, member, called⟩ :=
    exists_membership_of_follows compiled follows_glazing
  obtain ⟨subject, args⟩ := List.cons.inj called
  have only : rules.OnlyMembership relation membership := by
    refine onlyMembership_of_follows compiled listed member fun name names follows => ?_
    obtain ⟨rfl, same⟩ := eq_of_follows_glazing follows
    exact ⟨named.symm, (List.cons.inj same).2.trans args.symm⟩
  obtain ⟨tag, gravity, density, spread⟩ := template_glazing compiled listed named
  refine ⟨rules, compiled, relation, listed, membership, member, only, fun key => rfl, ?_⟩
  obtain ⟨declared, directives, gathered, checked, -, rfl⟩ := compile_eq_ok_iff.mp compiled
  have inside := Declared.lt_of_mem_members gathered checked listed member _ List.mem_cons_self
  rw [Declared.nameOf_ruleSet inside] at subject
  have sole : ∀ other ∈ (declared.closed directives).relations, other.name = "Rubs" →
      ∀ held ∈ other.members, held.origin = membership.origin := by
    intro other among same held there
    have names := (eq_of_follows_glazing
      (Declared.follows_of_mem_members gathered checked among there)).2
    have expected := (eq_of_follows_glazing
      (Declared.follows_of_mem_members gathered checked listed member)).2
    have tuples := Declared.map_nameOf_injective
      (Declared.lt_of_mem_members gathered checked among there)
      (Declared.lt_of_mem_members gathered checked listed member) (names.trans expected.symm)
    rw [Declared.eq_of_tuple gathered listed member among there (same.trans named.symm) tuples]
  obtain ⟨untagged, weightless, light, still⟩ := values_glazing gathered checked inside subject sole
  exact ⟨⟨tag, untagged⟩, ⟨gravity, weightless⟩, ⟨density, light⟩, spread, still⟩

end Declarations

end FallingSand
