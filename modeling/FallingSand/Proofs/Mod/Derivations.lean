import FallingSand.Proofs.Mod.Inheritance

/-!
# What memberships rest on

Every membership of a compiled mod has been derived: by the statement of which its origin tells, and
from one membership for each clause around that statement, all of them found before it.  Rows are
listed before a statement adds anything and memberships are never lost, so what a membership rests
on is still there in the end.
-/

namespace FallingSand

/-! ## Premises -/

namespace Registry

variable {registry before after : Registry} {place : Nat}

/-- The memberships of one registry are all in another. -/
def Keeps (before after : Registry) : Prop :=
  ∀ place, ∀ membership ∈ before.membersAt place, membership ∈ after.membersAt place

theorem keeps_put {membership : Membership} (inside : (registry.arityAt? place).isSome = true) :
    registry.Keeps (registry.put place membership) :=
  fun _ _ held => (mem_membersAt_put inside).mpr (Or.inl held)

theorem insertionKeeps_keeps (start : Registry) : InsertionKeeps start.Keeps := by
  intro registry place subject args statement keeps
  rcases registry.insertAt_cases place subject args statement with ⟨-, same⟩ | ⟨lacks, new⟩
  · rw [same]
    exact keeps
  · rw [new]
    exact fun other membership held => keeps_put lacks.1 other membership (keeps other _ held)

end Registry

/-- A directive asserts a membership of the relation at a place for premises that a registry holds
and that have been found before. -/
structure Directive.Asserts (directive : Directive) (registry : Registry) (place : Nat)
    (membership : Membership) (premises : List Membership) : Prop where
  /-- The membership tells of the directive. -/
  ordinal : directive.ordinal = membership.origin.statement
  /-- The premises are picked for the patterns. -/
  picked : premises ∈ registry.combinations directive.patterns
  /-- They have been found before. -/
  earlier : ∀ premise ∈ premises, premise.origin.sequence < membership.origin.sequence
  /-- The tuple is made from the row that they give. -/
  made : ∃ subject args row, directive.action = .member place subject args ∧
    Row.empty.extendAll? directive.patterns premises = some row ∧
    (subject :: args).mapM row.element? = some membership.tuple

theorem Directive.Asserts.mono {directive : Directive} {before after : Registry} {place : Nat}
    {membership : Membership} {premises : List Membership}
    (asserts : directive.Asserts before place membership premises) (keeps : before.Keeps after) :
    directive.Asserts after place membership premises where
  ordinal := asserts.ordinal
  picked := Registry.mem_combinations.mpr
    ((Registry.mem_combinations.mp asserts.picked).imp fun _ _ held => keeps _ _ held)
  earlier := asserts.earlier
  made := asserts.made

namespace Registry

variable {registry : Registry} {directives : List Directive}

/-- Memberships are numbered, and each of them is asserted by a directive. -/
structure Grounded (directives : List Directive) (registry : Registry) : Prop where
  /-- They are told apart by their numbers. -/
  numbered : registry.Numbered
  /-- A directive asserts each of them. -/
  asserted : ∀ place, ∀ membership ∈ registry.membersAt place,
    ∃ directive ∈ directives, ∃ premises, directive.Asserts registry place membership premises

/-- A directive adds what it asserts. -/
theorem Grounded.assertRow (grounded : registry.Grounded directives) {directive : Directive}
    (given : directive ∈ directives) {premises : List Membership} {row : Row}
    (picked : premises ∈ registry.combinations directive.patterns)
    (success : Row.empty.extendAll? directive.patterns premises = some row) :
    (directive.assertRow registry row).Grounded directives := by
  have numbered : (directive.assertRow registry row).Numbered :=
    directive.assertRow_induction insertionKeeps_numbered row grounded.numbered
  refine ⟨numbered, ?_⟩
  rw [Directive.assertRow]
  split
  · rename_i place subject args action
    split
    · rename_i first rest filled followed
      rcases registry.insertAt_cases place first rest directive.ordinal with
        ⟨-, same⟩ | ⟨lacks, new⟩
      · rw [same]
        exact grounded.asserted
      · rw [new]
        intro other membership held
        rcases (mem_membersAt_put lacks.1).mp held with old | ⟨rfl, rfl⟩
        · obtain ⟨source, among, sources, asserts⟩ := grounded.asserted other membership old
          exact ⟨source, among, sources, asserts.mono (keeps_put lacks.1)⟩
        · refine ⟨directive, given, premises, Directive.Asserts.mono ?_ (keeps_put lacks.1)⟩
          refine ⟨rfl, picked, fun premise listed => ?_, subject, args, row, action, success, ?_⟩
          · obtain ⟨pattern, -, held⟩ := exists_of_mem_right (mem_combinations.mp picked) listed
            exact grounded.numbered.below _ premise held
          · simp [List.mapM_cons, filled, followed, Membership.tuple]
    · exact grounded.asserted
  · exact grounded.asserted

/-- A directive adds what it asserts for all rows as they stand. -/
theorem Grounded.assertAll (grounded : registry.Grounded directives) {directive : Directive}
    (given : directive ∈ directives) : (directive.assertAll registry).Grounded directives := by
  have both : (directive.assertAll registry).Grounded directives ∧
      registry.Keeps (directive.assertAll registry) := by
    refine List.foldlRecOn (motive := fun state : Registry =>
      state.Grounded directives ∧ registry.Keeps state) _ _ ⟨grounded, fun _ _ held => held⟩ ?_
    rintro state ⟨inside, keeps⟩ row listed
    rw [rows_eq_combinations, List.mem_filterMap] at listed
    obtain ⟨premises, picked, success⟩ := listed
    -- the rows are those of the registry before, but it is still there
    have stillPicked : premises ∈ state.combinations directive.patterns :=
      mem_combinations.mpr ((mem_combinations.mp picked).imp fun _ _ held => keeps _ _ held)
    exact ⟨inside.assertRow given stillPicked success,
      directive.assertRow_induction (insertionKeeps_keeps registry) row keeps⟩
  exact both.1

theorem Grounded.round (grounded : registry.Grounded directives) {others : List Directive}
    (among : others ⊆ directives) : (registry.round others).Grounded directives :=
  List.foldlRecOn _ _ grounded fun _ inside _ listed => inside.assertAll (among listed)

theorem Grounded.close (grounded : registry.Grounded directives) (elements : Nat) :
    (registry.close directives elements).Grounded directives :=
  saturate_induction (fun _ inside => inside.round (Declared.derivations_subset directives)) _
    (grounded.round (Declared.facts_subset directives))

/-! ## Numbers -/

/-- The numbers of all memberships, relation by relation. -/
def sequences (registry : Registry) : List Nat :=
  registry.relations.toList.flatMap fun relation =>
    relation.members.toList.map (·.origin.sequence)

/-- Each number below that of the next membership is that of one membership. -/
def Counted (registry : Registry) : Prop :=
  registry.sequences.Perm (List.range registry.sequence)

theorem flatMap_modify_perm {α β : Type} {f : α → List β} {change : α → α} {items : List α}
    {place : Nat} {item : α} {added : List β} (stands : items[place]? = some item)
    (grows : f (change item) = f item ++ added) :
    ((items.modify place change).flatMap f).Perm (items.flatMap f ++ added) := by
  induction items generalizing place with
  | nil => cases stands
  | cons first rest induction =>
      cases place with
      | zero =>
          obtain rfl : first = item := by simpa using stands
          rw [List.modify_zero_cons, List.flatMap_cons, List.flatMap_cons, grows,
            List.append_assoc, List.append_assoc]
          exact List.perm_append_comm.append_left _
      | succ place =>
          rw [List.modify_succ_cons, List.flatMap_cons, List.flatMap_cons, List.append_assoc]
          exact (induction (by simpa using stands)).append_left _

theorem insertionKeeps_counted : InsertionKeeps Counted := by
  intro registry place subject args statement counted
  rcases registry.insertAt_cases place subject args statement with ⟨-, same⟩ | ⟨lacks, new⟩
  · rw [same]
    exact counted
  · rw [new]
    obtain ⟨relation, stands⟩ : ∃ relation, registry.relations.toList[place]? = some relation := by
      simpa [arityAt?, Option.isSome_iff_exists] using lacks.1
    rw [Counted, sequence_put, List.range_succ, sequences, put, Array.toList_modify]
    refine (flatMap_modify_perm stands ?_).trans (counted.append_right _)
    simp [Relation.add]

theorem length_sequences (registry : Registry) :
    registry.sequences.length = registry.memberCount := by
  rw [sequences, memberCount, List.length_flatMap, ← Array.foldl_toList, List.sum_eq_foldl,
    List.foldl_map]
  simp

/-! ## Names of relations -/

/-- The relations stand at the places of their names. -/
def Aligned (registry : Registry) : Prop :=
  registry.relations.map (·.name) = registry.names.names

theorem Aligned.find? (aligned : registry.Aligned) {place : Nat} {relation : Relation}
    (stands : registry.relations[place]? = some relation) :
    registry.names.find? relation.name = some place := by
  rw [Roster.find?_eq_some_iff, ← aligned, Array.getElem?_map, stands]
  rfl

theorem Aligned.declare (aligned : registry.Aligned) {name : String} {arity : Nat}
    {declared : Registry} (success : registry.declare name arity = .ok declared) :
    declared.Aligned := by
  rw [Registry.declare] at success
  split at success
  · cases success
  · split at success
    · cases success
    · cases success
      rw [Aligned, Array.map_push, aligned]
      rfl

theorem sequence_declare {name : String} {arity : Nat} {declared : Registry}
    (success : registry.declare name arity = .ok declared) :
    declared.sequence = registry.sequence := by
  rw [Registry.declare] at success
  split at success
  · cases success
  · split at success
    · cases success
    · cases success
      rfl

theorem Aligned.withTemplates (aligned : registry.Aligned) (directives : List Directive) :
    (registry.withTemplates directives).Aligned := by
  refine Eq.trans ?_ aligned
  apply Array.ext_getElem?
  intro place
  simp only [Registry.withTemplates, Array.getElem?_map, Array.getElem?_mapIdx, Option.map_map]
  rfl

theorem insertionKeeps_aligned : InsertionKeeps Aligned := by
  intro registry place subject args statement aligned
  rcases registry.insertAt_cases place subject args statement with ⟨-, same⟩ | ⟨-, new⟩
  · rw [same]
    exact aligned
  · rw [new]
    refine Eq.trans ?_ aligned
    apply Array.ext_getElem?
    intro other
    rw [Array.getElem?_map, Array.getElem?_map, relations_put]
    split
    · rw [Option.map_map]
      rfl
    · rfl

end Registry

namespace Declared

variable {declared : Declared} {directives : List Directive} {entries : List Entry}

theorem aligned_of_gathered (gathered : Declared.ofEntries entries = .ok declared) :
    declared.registry.Aligned :=
  registry_induction (Array.map_empty ..)
    (fun _ _ _ _ success aligned => Registry.Aligned.declare aligned success) gathered

theorem sequence_of_gathered (gathered : Declared.ofEntries entries = .ok declared) :
    declared.registry.sequence = 0 :=
  registry_induction (P := fun registry => registry.sequence = 0) rfl
    (fun _ _ _ _ success none => (Registry.sequence_declare success).trans none) gathered

/-! ## Closed registries -/

theorem aligned_closed (gathered : Declared.ofEntries entries = .ok declared)
    (directives : List Directive) : (declared.closed directives).Aligned :=
  Registry.close_induction Registry.insertionKeeps_aligned directives _
    ((aligned_of_gathered gathered).withTemplates directives)

theorem grounded_closed (gathered : Declared.ofEntries entries = .ok declared)
    (directives : List Directive) : (declared.closed directives).Grounded directives := by
  refine Registry.Grounded.close ⟨numbered_withTemplates gathered directives, ?_⟩ _
  intro place membership held
  simp [membersAt_of_gathered gathered] at held

theorem counted_closed (gathered : Declared.ofEntries entries = .ok declared)
    (directives : List Directive) : (declared.closed directives).Counted := by
  have empty := membersAt_of_gathered gathered directives
  refine Registry.close_induction Registry.insertionKeeps_counted directives _ ?_
  have unnumbered : (declared.registry.withTemplates directives).sequences = [] := by
    refine List.flatMap_eq_nil_iff.mpr fun relation listed => ?_
    obtain ⟨place, stands⟩ := List.getElem?_of_mem listed
    have members := empty place
    rw [Registry.membersAt, ← Array.getElem?_toList, stands] at members
    simpa using members
  have first : (declared.registry.withTemplates directives).sequence = 0 :=
    sequence_of_gathered gathered
  rw [Registry.Counted, unnumbered, first]
  exact List.Perm.nil

end Declared

/-! ## Derivations -/

/-- The statement of an entry makes a membership of the relation of a name from premises, one for
each clause around it. -/
structure RuleSet.Derives (rules : RuleSet) (entry : Entry) (name : String)
    (membership : Membership) (premises : List Membership) : Prop where
  /-- It is a membership statement for the relation, and with what the terms of the clauses meet in
  the premises, its own terms stand for the tuple. -/
  states : ∃ terms, entry.statement = .member name terms ∧
    terms.mapM (rules.elements.meaning?
      (occurrences entry.clauses (premises.map Membership.tuple))) = some membership.tuple
  /-- A premise is a membership of the relation of its clause that has been found before. -/
  founded : List.Forall₂ (fun clause premise =>
    clause.terms.length = premise.tuple.length ∧
      premise.origin.sequence < membership.origin.sequence ∧
      ∃ relation ∈ rules.registry.relations, relation.name = clause.relation ∧
        premise ∈ relation.members) entry.clauses premises
  /-- Literals match, and all occurrences of a variable agree. -/
  consistent : rules.elements.Consistent
    (occurrences entry.clauses (premises.map Membership.tuple))

theorem mapM_eq_mapM_of_forall₂ {α β γ : Type} {R : α → β → Prop} {f : α → Option γ}
    {g : β → Option γ} {items : List α} {others : List β} (related : List.Forall₂ R items others)
    (agree : ∀ item other, R item other → f item = g other) : items.mapM f = others.mapM g := by
  induction related with
  | nil => rfl
  | cons first _ induction => rw [List.mapM_cons, List.mapM_cons, agree _ _ first, induction]

/-- Terms that stand for elements although no variable has met any are all literals. -/
theorem literals_of_meaning? {table : ElementTable} {terms : List Term} {tuple : List ElementId}
    (written : terms.mapM (table.meaning? []) = some tuple) :
    ∃ names : List String,
      terms = names.map Term.element ∧ names.mapM table.idOf? = some tuple := by
  induction terms generalizing tuple with
  | nil => exact ⟨[], rfl, written⟩
  | cons term terms induction =>
      simp only [List.mapM_cons, Option.bind_eq_bind, Option.bind_eq_some_iff] at written
      obtain ⟨id, here, rest, there, whole⟩ := written
      obtain ⟨names, rfl, found⟩ := induction there
      cases term with
      | var name => cases here
      | element name =>
          refine ⟨name :: names, rfl, ?_⟩
          have first : table.idOf? name = some id := here
          simpa [List.mapM_cons, first, found] using whole

theorem RuleSet.Derives.literals {rules : RuleSet} {entry : Entry} {name : String}
    {membership : Membership} {premises : List Membership}
    (derives : rules.Derives entry name membership premises) (top : entry.clauses = []) :
    ∃ names : List String, entry.statement = .member name (names.map Term.element) ∧
      names.mapM rules.elements.idOf? = some membership.tuple := by
  obtain ⟨terms, statement, written⟩ := derives.states
  rw [top] at written
  obtain ⟨names, rfl, found⟩ := literals_of_meaning? written
  exact ⟨names, statement, found⟩

namespace Declared

variable {declared : Declared} {directives : List Directive} {entries : List Entry} {place : Nat}

theorem exists_relation_of_mem_membersAt {registry : Registry} {membership : Membership}
    (held : membership ∈ registry.membersAt place) :
    ∃ relation, registry.relations[place]? = some relation ∧ membership ∈ relation.members := by
  rw [Registry.membersAt] at held
  cases stands : registry.relations[place]? with
  | none => simp [stands] at held
  | some relation => exact ⟨relation, rfl, by simpa [stands] using held⟩

section Closed

variable (gathered : Declared.ofEntries entries = .ok declared)

include gathered

/-- A relation is called what leads to its place. -/
theorem name_of_find? {relation : Relation} {name : String}
    (stands : (declared.closed directives).relations[place]? = some relation)
    (found : declared.registry.names.find? name = some place) : relation.name = name := by
  have called := (aligned_closed gathered directives).find? stands
  rw [names_closed] at called
  exact name_unique called found

theorem forall₂_premises {clauses : List Clause} {patterns : List Pattern}
    {premises : List Membership} {sequence : Nat}
    (same : List.Forall₂ declared.Matches clauses patterns)
    (picked : premises ∈ (declared.closed directives).combinations patterns)
    (fits : List.Forall₂ Row.Fitting patterns premises)
    (earlier : ∀ premise ∈ premises, premise.origin.sequence < sequence) :
    List.Forall₂ (fun clause premise =>
      clause.terms.length = premise.tuple.length ∧ premise.origin.sequence < sequence ∧
        ∃ relation ∈ (declared.closed directives).relations, relation.name = clause.relation ∧
          premise ∈ relation.members) clauses premises := by
  rw [Registry.mem_combinations] at picked
  induction same generalizing premises with
  | nil =>
      cases picked
      exact .nil
  | cons comes _ induction =>
      obtain _ | ⟨held, others⟩ := picked
      obtain _ | ⟨fit, fits⟩ := fits
      obtain ⟨before, sooner⟩ := List.forall_mem_cons.mp earlier
      obtain ⟨relation, stands, member⟩ := exists_relation_of_mem_membersAt held
      refine .cons ⟨comes.slots.length_eq.trans fit, before, relation,
        Array.mem_of_getElem? stands, ?_, member⟩ (induction others fits sooner)
      exact name_of_find? gathered stands comes.relation

/-- What a directive asserts is derived by its entry. -/
theorem derives_of_asserts (checked : declared.directives entries = .ok directives) {entry : Entry}
    {directive : Directive} (directs : declared.Directs entry directive) {relation : Relation}
    {membership : Membership} {premises : List Membership}
    (stands : (declared.closed directives).relations[place]? = some relation)
    (asserts : directive.Asserts (declared.closed directives) place membership premises) :
    (declared.ruleSet directives).Derives entry relation.name membership premises := by
  have fits := Registry.fitting_of_mem_combinations (fits_closed gathered checked directs)
    asserts.picked
  obtain ⟨subject, args, row, action, success, made⟩ := asserts.made
  obtain ⟨name, terms, statement, named, resolves⟩ := member_of_directs directs action
  have known (assignment : Assignment) (name : String) :
      (declared.ruleSet directives).elements.idOf? name =
        declared.catalog.value? assignment (.element name) := idOf?_ruleSet name
  obtain ⟨consistent, reads⟩ := reads_of_extendAll? directs.patterns fits known success
  refine ⟨⟨terms, ?_, ?_⟩, ?_, consistent⟩
  · rw [statement, name_of_find? gathered stands named]
  · rw [← made]
    refine mapM_eq_mapM_of_forall₂ resolves fun term slot resolved => ?_
    obtain ⟨id, filled, meant⟩ := reads term slot resolved
    rw [filled, meant]
  · exact forall₂_premises gathered directs.patterns asserts.picked fits asserts.earlier

/-- Every membership is derived by the entry of its statement. -/
theorem exists_derives (checked : declared.directives entries = .ok directives)
    {relation : Relation} (listed : relation ∈ (declared.closed directives).relations)
    {membership : Membership} (member : membership ∈ relation.members) :
    ∃ entry premises, entries[membership.origin.statement]? = some entry ∧
      (declared.ruleSet directives).Derives entry relation.name membership premises := by
  obtain ⟨place, stands⟩ := Array.getElem?_of_mem listed
  have held : membership ∈ (declared.closed directives).membersAt place := by
    rw [Registry.membersAt, stands]
    exact member
  obtain ⟨directive, given, premises, asserts⟩ :=
    (grounded_closed gathered directives).asserted place membership held
  obtain ⟨entry, numbered, directs⟩ := exists_entry_at checked given
  exact ⟨entry, premises, asserts.ordinal ▸ numbered,
    derives_of_asserts gathered checked directs stands asserts⟩

end Closed

end Declared

/-- Every membership of a compiled mod is derived by the statement of its origin, which is written
down as it is if no clause is around it, from memberships found before; and memberships are numbered
from zero on, over all relations. -/
theorem Declarations.compile_derives {declarations : Declarations} {rules : RuleSet}
    (compiled : declarations.compile = .ok rules) :
    (∀ relation ∈ rules.registry.relations, ∀ membership ∈ relation.members,
      ∃ entry premises, declarations.entries[membership.origin.statement]? = some entry ∧
        rules.Derives entry relation.name membership premises ∧
        (entry.clauses = [] → ∃ names : List String,
          entry.statement = .member relation.name (names.map Term.element) ∧
            names.mapM rules.elements.idOf? = some membership.tuple)) ∧
    rules.registry.sequences.Perm (List.range rules.registry.memberCount) := by
  obtain ⟨declared, directives, gathered, checked, -, rfl⟩ := compile_eq_ok_iff.mp compiled
  constructor
  · intro relation listed membership member
    obtain ⟨entry, premises, numbered, derives⟩ :=
      Declared.exists_derives gathered checked listed member
    exact ⟨entry, premises, numbered, derives, derives.literals⟩
  · have counted := Declared.counted_closed gathered directives
    change (declared.closed directives).sequences.Perm
      (List.range (declared.closed directives).memberCount)
    rw [← Registry.length_sequences, counted.length_eq, List.length_range]
    exact counted

theorem roads_derived : ∃ rules, Declared.roads.compile = .ok rules ∧
    (∀ relation ∈ rules.registry.relations, ∀ membership ∈ relation.members,
      ∃ entry premises, Declared.roads.entries[membership.origin.statement]? = some entry ∧
        rules.Derives entry relation.name membership premises) ∧
    rules.registry.sequences.Perm (List.range rules.registry.memberCount) := by
  have compiles : Succeeds Declared.roads.compile := Declarations.compile_succeeds (by decide)
    ⟨by decide, by decide, by decide, by decide⟩ (by decide) (by decide)
  obtain ⟨rules, compiled⟩ := compiles
  obtain ⟨derived, counted⟩ := Declarations.compile_derives compiled
  refine ⟨rules, compiled, fun relation listed membership member => ?_, counted⟩
  obtain ⟨entry, premises, stands, derives, -⟩ := derived relation listed membership member
  exact ⟨entry, premises, stands, derives⟩

end FallingSand
