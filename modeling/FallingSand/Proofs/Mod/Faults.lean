import FallingSand.Proofs.Mod.Places
import FallingSand.Proofs.Mod.Verdict

/-!
# Faults are found where they are

Compiling answers a mod that it rejects with a fault and a path.  The checks that raise faults are
shared by all statements, and a fault gets the path of whichever entry is being checked.  Still it
is always about that entry: the path leads to a statement of which the fault says what is true.
-/

namespace FallingSand

namespace Statement

/-- The relations that a statement names itself, with the numbers of terms that it gives them. -/
def uses : Statement → List (String × Nat)
  | .member named terms => [(named, terms.length)]
  | .block own _ => own.map fun clause => (clause.relation, clause.terms.length)
  | _ => []

/-- The terms of a statement itself, those of its header included. -/
def mentions (statement : Statement) : List Term :=
  statement.terms ++ statement.header.flatMap Clause.terms

/-- The kind of a declaration in words. -/
def kind? : Statement → Option String
  | .title _ => some "title"
  | .element _ _ => some "element"
  | .relation _ _ => some "relation"
  | _ => none

theorem mem_uses_of_mem_header {statement : Statement} {clause : Clause}
    (heads : clause ∈ statement.header) :
    (clause.relation, clause.terms.length) ∈ statement.uses := by
  cases statement with
  | block own body => exact List.mem_map.mpr ⟨clause, heads, rfl⟩
  | _ => cases heads

end Statement

namespace Declarations

/-- What a fault says of an entry that comes after the entries `before` is true.  A rule starts from
`Empty` by name, or by a variable that is `Empty` for names whose tuples follow from the mod. -/
def Exhibits (declarations : Declarations) (before : List Entry) (entry : Entry) : Fault → Prop
  | .undefinedRelation name =>
      (∃ found, (name, found) ∈ entry.statement.uses) ∧ name ∉ declarations.relations.map (·.1)
  | .unknownElement name =>
      .element name ∈ entry.statement.mentions ∧ name ≠ emptyName ∧ name ∉ declarations.elements
  | .duplicateElement name =>
      (∃ color, entry.statement = .element name color) ∧
        (name = emptyName ∨ name ∈ before.flatMap Entry.elements)
  | .tooManyElements limit =>
      limit = maxElements ∧ (∃ name color, entry.statement = .element name color) ∧
        (before.flatMap Entry.elements).length = 65535
  | .duplicateRelation name =>
      (∃ arity, entry.statement = .relation name arity) ∧
        name ∈ (before.flatMap Entry.relations).map (·.1)
  | .arityMismatch relation expected found =>
      (relation, found) ∈ entry.statement.uses ∧ (relation, expected) ∈ declarations.relations ∧
        expected ≠ found
  | .invalidArity name => entry.statement = .relation name 0
  | .probabilityOutOfRange value =>
      entry.statement.probability? = some value ∧ ¬Possible value
  | .unboundVariable name =>
      .var name ∈ entry.statement.terms ∧ ∀ clause ∈ entry.clauses, .var name ∉ clause.terms
  | .emptyReactant =>
      entry.statement.reactant? = some (.element emptyName) ∨
        ∃ name, entry.statement.reactant? = some (.var name) ∧ ∃ names : String → String,
          (∀ clause ∈ entry.clauses, Follows declarations.entries clause.relation
            (clause.terms.map (Term.read names))) ∧
          names name = emptyName
  | .invalidProperty key value =>
      (∃ subject, entry.statement = .property key subject value) ∧ key.accepts value = false
  | .misplacedDeclaration kind => entry.statement.kind? = some kind ∧ entry.clauses ≠ []

/-- The path of an error is that of an entry that exhibits its fault. -/
def Warrants (declarations : Declarations) (error : CompileError) : Prop :=
  ∃ before entry after, declarations.entries = before ++ entry :: after ∧
    error.path = entry.path ∧ declarations.Exhibits before entry error.fault

variable {declarations : Declarations} {before : List Entry} {entry : Entry} {declared : Declared}

/-! ## Gathering

A check that is made of an entry fails only with faults that the entry exhibits. -/

section Gathering

theorem failsOnly_requireTop {kind : String} (called : entry.statement.kind? = some kind) :
    FailsOnly (declarations.Exhibits before entry) (Declared.requireTop entry kind) := by
  rw [Declared.requireTop]
  split
  · exact (succeeds_ok _).failsOnly
  · rename_i below
    exact failsOnly_error ⟨called, fun top => below (List.isEmpty_iff.mpr top)⟩

variable (lists : declared.Lists (Vocabulary.initial.extend before))

include lists

theorem failsOnly_define {name color : String} (statement : entry.statement = .element name color) :
    FailsOnly (declarations.Exhibits before entry) (declared.catalog.define name color) := by
  rw [Catalog.define]
  split
  · rename_i found
    have listed := Roster.mem_of_find? found
    rw [lists.elements] at listed
    exact failsOnly_error ⟨⟨color, statement⟩, List.mem_cons.mp listed⟩
  · split
    · exact (succeeds_ok _).failsOnly
    · rename_i full
      -- there are no more names than identifiers, `Empty` being the first
      have most : declared.catalog.size = maxElements :=
        Nat.le_antisymm declared.catalog.size_le (Nat.not_lt.mp full)
      have count : declared.catalog.size = (before.flatMap Entry.elements).length + 1 := by
        rw [Catalog.size, Roster.size, ← Array.length_toList, lists.elements]
        rfl
      exact failsOnly_error ⟨rfl, ⟨name, color, statement⟩, Nat.succ.inj (count.symm.trans most)⟩

theorem failsOnly_declare {name : String} {arity : Nat}
    (statement : entry.statement = .relation name arity) :
    FailsOnly (declarations.Exhibits before entry) (declared.registry.declare name arity) := by
  rw [Registry.declare]
  split
  · rename_i empty
    exact failsOnly_error (by rw [Exhibits, statement, empty])
  · split
    · rename_i found
      have listed := Roster.mem_of_find? found
      rw [lists.names] at listed
      exact failsOnly_error ⟨⟨arity, statement⟩, listed⟩
    · exact (succeeds_ok _).failsOnly

theorem failsOnly_add :
    FailsOnly (declarations.Exhibits before entry) (declared.add entry) := by
  rw [Declared.add]
  split
  · rename_i statement
    refine (failsOnly_requireTop (by rw [statement]; rfl)).bind fun _ _ => ?_
    exact (succeeds_pure _).failsOnly
  · rename_i statement
    refine (failsOnly_requireTop (by rw [statement]; rfl)).bind fun _ _ => ?_
    exact (failsOnly_define lists statement).bind fun _ _ => (succeeds_pure _).failsOnly
  · rename_i statement
    refine (failsOnly_requireTop (by rw [statement]; rfl)).bind fun _ _ => ?_
    exact (failsOnly_declare lists statement).bind fun _ _ => (succeeds_pure _).failsOnly
  · exact (succeeds_ok _).failsOnly

end Gathering

theorem warrants_of_ofEntries_error {error : CompileError}
    (failed : Declared.ofEntries declarations.entries = .error error) :
    declarations.Warrants error := by
  obtain ⟨before, entry, after, declared, cut, gathered, failed⟩ :=
    exists_first_of_foldlM_eq_error failed
  obtain ⟨located, fault⟩ := Entry.locate_eq_error failed
  exact ⟨before, entry, after, cut, located,
    failsOnly_add (Declared.lists_of_gathered gathered) _ fault⟩

/-! ## Checking -/

section Checking

theorem failsOnly_checkProbability {probability : Single}
    (given : entry.statement.probability? = some probability) :
    FailsOnly (declarations.Exhibits before entry) (Declared.checkProbability probability) := by
  rw [Declared.checkProbability]
  split
  · exact (succeeds_ok _).failsOnly
  · rename_i impossible
    exact failsOnly_error ⟨given, fun possible => impossible (Bool.and_eq_true_iff.mpr possible)⟩

theorem failsOnly_checkReactant {term : Term} (starts : entry.statement.reactant? = some term) :
    FailsOnly (declarations.Exhibits before entry) (Declared.checkReactant term) := by
  rw [Declared.checkReactant]
  split
  · rename_i same
    exact failsOnly_error (Or.inl (same ▸ starts))
  · exact (succeeds_ok _).failsOnly

variable (lists : declared.Lists declarations.vocabulary)

include lists

theorem failsOnly_getFitting {name : String} {found : Nat}
    (used : (name, found) ∈ entry.statement.uses) :
    FailsOnly (declarations.Exhibits before entry) (declared.registry.getFitting name found) := by
  have fits (arity : Nat) : Succeeds (declared.registry.getFitting name arity) ↔
      (name, arity) ∈ declarations.relations := Declared.getFitting_succeeds_iff lists
  rw [Registry.getFitting]
  refine FailsOnly.bind ?_ fun relation got => ?_
  · intro fault failed
    have absent : name ∉ declarations.relations.map (·.1) := by
      intro named
      obtain ⟨⟨_, arity⟩, listed, rfl⟩ := List.mem_map.mp named
      obtain ⟨relation, got, -⟩ := succeeds_bind_iff.mp ((fits arity).mpr listed)
      rw [failed] at got
      cases got
    rw [Registry.get] at failed
    split at failed
    · cases failed
    · cases failed
      exact ⟨⟨found, used⟩, absent⟩
  · split
    · exact (succeeds_ok _).failsOnly
    · rename_i different
      refine failsOnly_error ⟨used, (fits relation.arity).mp ⟨relation, ?_⟩, different⟩
      rw [Registry.getFitting, got, ok_bind, if_pos rfl]

theorem failsOnly_idOf {name : String} (mentioned : .element name ∈ entry.statement.mentions) :
    FailsOnly (declarations.Exhibits before entry) (declared.catalog.idOf name) := by
  rw [Catalog.idOf]
  split
  · exact (succeeds_ok _).failsOnly
  · rename_i missing
    have absent := Roster.find?_eq_none_iff.mp missing
    rw [lists.elements] at absent
    exact failsOnly_error ⟨mentioned, List.ne_and_not_mem_of_not_mem_cons absent⟩

theorem failsOnly_patternSlot {term : Term} (mentioned : term ∈ entry.statement.mentions) :
    FailsOnly (declarations.Exhibits before entry) (declared.patternSlot term) := by
  cases term with
  | element name =>
      exact (failsOnly_idOf lists mentioned).bind fun _ _ => (succeeds_pure _).failsOnly
  | var name => exact (succeeds_ok _).failsOnly

theorem failsOnly_slot {term : Term} (used : term ∈ entry.statement.terms) :
    FailsOnly (declarations.Exhibits before entry) (declared.slot entry.clauses term) := by
  cases term with
  | element name =>
      refine (failsOnly_idOf lists (List.mem_append_left _ used)).bind fun _ _ => ?_
      exact (succeeds_pure _).failsOnly
  | var name =>
      rw [Declared.slot]
      split
      · exact (succeeds_ok _).failsOnly
      · rename_i unbound
        exact failsOnly_error ⟨used, by simpa using unbound⟩

theorem failsOnly_pattern {clause : Clause} (heads : clause ∈ entry.statement.header) :
    FailsOnly (declarations.Exhibits before entry) (declared.pattern clause) := by
  have used := Statement.mem_uses_of_mem_header heads
  refine (failsOnly_getFitting lists used).bind fun relation fitting => ?_
  refine (Declared.placeOf_succeeds ⟨relation, fitting⟩).failsOnly.bind fun _ _ => ?_
  refine (FailsOnly.mapM fun term mentioned => ?_).bind fun _ _ => (succeeds_pure _).failsOnly
  have within : term ∈ entry.statement.mentions :=
    List.mem_append_right _ (List.mem_flatMap.mpr ⟨clause, heads, mentioned⟩)
  exact failsOnly_patternSlot lists within

variable (sound : declarations.vocabulary.Sound)

include sound

/-- There are always terms where a membership statement has got as far as these. -/
theorem failsOnly_member {relation : String} {terms : List Term}
    (same : entry.statement = .member relation terms) :
    FailsOnly (declarations.Exhibits before entry)
      (declared.action? entry.clauses (.member relation terms)) := by
  rw [Declared.action?]
  refine (failsOnly_getFitting lists (by simp [same, Statement.uses])).bind fun found fitting => ?_
  refine (Declared.placeOf_succeeds ⟨found, fitting⟩).failsOnly.bind fun place _ => ?_
  refine (FailsOnly.mapM fun term used => ?_).bind fun slots resolved => ?_
  · exact failsOnly_slot lists (by simpa [same, Statement.terms] using used)
  · cases slots with
    | cons subject args => exact (succeeds_ok _).failsOnly
    | nil =>
        obtain rfl := List.forall₂_nil_right_iff.mp (mapM_eq_ok_iff.mp resolved)
        have listed := (Declared.getFitting_succeeds_iff lists).mp ⟨found, fitting⟩
        exact absurd rfl (sound.arities _ listed)

theorem failsOnly_action? {statement : Statement} (same : entry.statement = statement) :
    FailsOnly (declarations.Exhibits before entry)
      (declared.action? entry.clauses statement) := by
  have slot (term : Term) (used : term ∈ statement.terms) :
      FailsOnly (declarations.Exhibits before entry) (declared.slot entry.clauses term) :=
    failsOnly_slot lists (same ▸ used)
  cases statement with
  | title _ | element _ _ | relation _ _ => exact (succeeds_ok _).failsOnly
  | block own body =>
      refine (FailsOnly.mapM fun clause heads => ?_).bind fun _ _ => (succeeds_pure _).failsOnly
      exact failsOnly_pattern lists (by rw [same]; exact heads)
  | member relation terms => exact failsOnly_member lists sound same
  | property key subject value =>
      rw [Declared.action?]
      split
      · exact (slot subject (by simp [Statement.terms])).bind fun _ _ => (succeeds_pure _).failsOnly
      · rename_i refused
        exact failsOnly_error ⟨⟨subject, same⟩, Bool.eq_false_iff.mpr refused⟩
  | tag subject text | name subject text | description subject text =>
      exact (slot subject (by simp [Statement.terms])).bind fun _ _ => (succeeds_pure _).failsOnly
  | reaction probability left right outLeft outRight =>
      refine (failsOnly_checkProbability (by rw [same]; rfl)).bind fun _ _ => ?_
      refine (failsOnly_checkReactant (by rw [same]; rfl)).bind fun _ _ => ?_
      refine (slot left (by simp [Statement.terms])).bind fun _ _ => ?_
      refine (slot right (by simp [Statement.terms])).bind fun _ _ => ?_
      refine (slot outLeft (by simp [Statement.terms])).bind fun _ _ => ?_
      refine (slot outRight (by simp [Statement.terms])).bind fun _ _ => ?_
      exact (succeeds_pure _).failsOnly
  | transition probability source target =>
      refine (failsOnly_checkProbability (by rw [same]; rfl)).bind fun _ _ => ?_
      refine (failsOnly_checkReactant (by rw [same]; rfl)).bind fun _ _ => ?_
      refine (slot source (by simp [Statement.terms])).bind fun _ _ => ?_
      refine (slot target (by simp [Statement.terms])).bind fun _ _ => ?_
      exact (succeeds_pure _).failsOnly

/-- The clauses around an entry are not at fault if they have been found to fit. -/
theorem failsOnly_directive? {ordinal : Nat}
    (fits : ∀ clause ∈ entry.clauses, declarations.vocabulary.FitsClause clause) :
    FailsOnly (declarations.Exhibits before entry) (declared.directive? entry ordinal) := by
  have patterns : Succeeds (entry.clauses.mapM declared.pattern) :=
    succeeds_mapM_iff.mpr fun clause around =>
      (Declared.pattern_succeeds_iff lists).mpr (fits clause around)
  rw [Declared.directive?]
  refine patterns.failsOnly.bind fun _ _ => ?_
  refine (failsOnly_action? lists sound rfl).bind fun action _ => ?_
  cases action <;> exact (succeeds_ok _).failsOnly

end Checking

theorem warrants_of_directives_error
    (gathered : Declared.ofEntries declarations.entries = .ok declared) {error : CompileError}
    (failed : declared.directives declarations.entries = .error error) :
    declarations.Warrants error := by
  have lists : declared.Lists declarations.vocabulary := Declared.lists_of_gathered gathered
  have sound : declarations.vocabulary.Sound :=
    (Declared.ofEntries_succeeds_iff.mp ⟨declared, gathered⟩).2
  rcases bind_eq_error_iff.mp failed with failed | ⟨_, -, impossible⟩
  · obtain ⟨before, ⟨entry, ordinal⟩, after, cut, succeed, failed⟩ :=
      exists_first_of_mapM_eq_error failed
    obtain ⟨located, fault⟩ := Entry.locate_eq_error failed
    have cut : declarations.entries = before.map (·.1) ++ entry :: after.map (·.1) := by
      rw [← List.zipIdx_map_fst 0 declarations.entries, cut, List.map_append, List.map_cons]
    -- every clause around the entry has been checked in the header of an earlier block
    have fits : ∀ clause ∈ entry.clauses, declarations.vocabulary.FitsClause clause := by
      intro clause around
      obtain ⟨other, earlier, heads⟩ := exists_earlier_header cut around
      obtain ⟨⟨other, place⟩, listed, rfl⟩ := List.mem_map.mp earlier
      have checked := Entry.locate_succeeds_iff.mp (succeed _ listed)
      exact ((Declared.directive?_succeeds_iff lists).mp checked).2.1.header heads
    exact ⟨_, entry, _, cut, located, failsOnly_directive? lists sound fits _ fault⟩
  · cases impossible

/-! ## Rules that start from `Empty` -/

theorem warrants_of_spoiled {directives : List Directive}
    (gathered : Declared.ofEntries declarations.entries = .ok declared)
    (checked : declared.directives declarations.entries = .ok directives) {error : CompileError}
    (failed : declarations.compile = .error error) : declarations.Warrants error := by
  obtain ⟨directive, given, rfl, consequence, listed, spoiled⟩ :=
    exists_spoiled_of_error gathered checked failed
  obtain ⟨entry, standing, located, term, names, reactant, follows, empty⟩ :=
    Declared.exists_reactant_of_startsFromEmpty gathered checked given listed spoiled
  obtain ⟨before, after, cut⟩ := List.append_of_mem standing
  refine ⟨before, entry, after, cut, located, ?_⟩
  cases term with
  | element name =>
      obtain rfl : name = emptyName := empty
      exact Or.inl reactant
  | var name => exact Or.inr ⟨name, reactant, names, follows, empty⟩

/-! ## What is told of a mod that does not compile -/

/-- A mod that does not compile is told the truth: the path leads to one of its statements, under
the clauses of the blocks on the way, and that statement itself exhibits the fault. -/
theorem compile_faults_exhibited {declarations : Declarations} {error : CompileError}
    (failed : declarations.compile = .error error) :
    ∃ before entry after, declarations.entries = before ++ entry :: after ∧
      error.path = entry.path ∧
      declarations.reach? error.path = some (entry.clauses, entry.statement) ∧
      declarations.Exhibits before entry error.fault := by
  have warranted : declarations.Warrants error := by
    cases gathered : Declared.ofEntries declarations.entries with
    | error fault =>
        rw [compile, gathered] at failed
        cases failed
        exact warrants_of_ofEntries_error gathered
    | ok declared =>
        cases checked : declared.directives declarations.entries with
        | error fault =>
            simp only [compile, gathered, checked, ok_bind] at failed
            cases failed
            exact warrants_of_directives_error gathered checked
        | ok directives => exact warrants_of_spoiled gathered checked failed
  obtain ⟨before, entry, after, cut, located, exhibits⟩ := warranted
  refine ⟨before, entry, after, cut, located, ?_, exhibits⟩
  rw [located]
  exact reach?_path (cut ▸ List.mem_append_right _ List.mem_cons_self)

/-- An element is declared two blocks deep, of which only the outer one has a clause. -/
def buried : Declarations :=
  [.title "Bog",
    .block [⟨"Wet", [.var "mud"]⟩]
      [.tag (.var "mud") "soil", .block [] [.element "Peat" "#402810"]]]

theorem buried_faults_exhibited :
    buried.compile = .error ⟨[1, 1, 0], .misplacedDeclaration "element"⟩ ∧
      ∃ before entry after, buried.entries = before ++ entry :: after ∧
        [1, 1, 0] = entry.path ∧
        buried.reach? [1, 1, 0] = some (entry.clauses, entry.statement) ∧
        entry.statement.kind? = some "element" ∧ entry.clauses ≠ [] := by
  have failed : buried.compile = .error ⟨[1, 1, 0], .misplacedDeclaration "element"⟩ := rfl
  exact ⟨failed, compile_faults_exhibited failed⟩

end Declarations
end FallingSand
