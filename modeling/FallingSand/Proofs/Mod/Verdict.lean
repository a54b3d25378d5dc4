import FallingSand.Proofs.Mod.Checked

/-!
# When a mod is accepted

Whether a mod compiles can be told from its statements alone: from the names that they declare and
use, from their numbers, and from the tuples of names that follow from them.  Once the declarations
are gathered and the statements checked, the one thing that can still be wrong is a rule that starts
from `Empty`, although every later pass checks whatever it meets.
-/

namespace FallingSand

namespace Statement

/-- The clauses that a block adds to those around it. -/
def header : Statement → List Clause
  | .block own _ => own
  | _ => []

/-- The probability of a rule. -/
def probability? : Statement → Option Single
  | .reaction probability _ _ _ _ => some probability
  | .transition probability _ _ => some probability
  | _ => none

/-- What a rule starts from. -/
def reactant? : Statement → Option Term
  | .reaction _ left _ _ _ => some left
  | .transition _ source _ => some source
  | _ => none

end Statement

/-- What a directive for a rule starts from. -/
def Action.reactant? : Action → Option Slot
  | .reaction _ left _ _ _ => some left
  | .transition _ source _ => some source
  | _ => none

namespace Declarations

/-- The names of the elements that a mod declares. -/
def elements (declarations : Declarations) : List String :=
  declarations.entries.flatMap Entry.elements

/-- The relations that a mod declares, with the lengths of their tuples. -/
def relations (declarations : Declarations) : List (String × Nat) :=
  declarations.entries.flatMap Entry.relations

/-- All that is asked of a mod. -/
structure Accepted (declarations : Declarations) : Prop where
  /-- Declarations have no clauses around them. -/
  top : ∀ entry ∈ declarations.entries, entry.declares = true → entry.clauses = []
  /-- No element is declared twice. -/
  elements : declarations.elements.Nodup
  /-- `Empty` is not declared. -/
  empty : emptyName ∉ declarations.elements
  /-- There is an identifier for every element. -/
  room : declarations.elements.length ≤ 65535
  /-- No relation is declared twice. -/
  relations : (declarations.relations.map (·.1)).Nodup
  /-- Tuples are not empty. -/
  arities : ∀ relation ∈ declarations.relations, 1 ≤ relation.2
  /-- Clauses are about declared relations and have as many terms as these take. -/
  clauses : ∀ entry ∈ declarations.entries, ∀ clause ∈ entry.statement.header,
    (clause.relation, clause.terms.length) ∈ declarations.relations
  /-- So are membership statements. -/
  members : ∀ entry ∈ declarations.entries, ∀ relation terms,
    entry.statement = .member relation terms →
      (relation, terms.length) ∈ declarations.relations
  /-- Every name in a clause or a statement is that of an element. -/
  names : ∀ entry ∈ declarations.entries, ∀ name,
    .element name ∈ entry.statement.terms ++ entry.statement.header.flatMap Clause.terms →
      name = emptyName ∨ name ∈ declarations.elements
  /-- Every variable of a statement occurs in a clause around it. -/
  bound : ∀ entry ∈ declarations.entries, ∀ name, .var name ∈ entry.statement.terms →
    ∃ clause ∈ entry.clauses, .var name ∈ clause.terms
  /-- Properties accept their values. -/
  properties : ∀ entry ∈ declarations.entries, ∀ key subject value,
    entry.statement = .property key subject value → key.accepts value = true
  /-- Probabilities lie between zero and one. -/
  probabilities : ∀ entry ∈ declarations.entries, ∀ probability,
    entry.statement.probability? = some probability → Possible probability
  /-- No rule starts from `Empty` by name. -/
  reactants : ∀ entry ∈ declarations.entries,
    entry.statement.reactant? ≠ some (.element emptyName)
  /-- No rule starts from a variable that can be `Empty`. -/
  bindings : ∀ entry ∈ declarations.entries, ∀ name,
    entry.statement.reactant? = some (.var name) → ∀ names : String → String,
      (∀ clause ∈ entry.clauses,
        Follows declarations.entries clause.relation (clause.terms.map (Term.read names))) →
      names name ≠ emptyName

end Declarations

/-! ## Clauses around statements -/

/-- Where a list made of two is cut at an item, the item is in the first or in the second. -/
theorem cut_of_append_eq {α : Type} {front back before after : List α} {item : α}
    (cut : front ++ back = before ++ item :: after) :
    (∃ rest, front = before ++ item :: rest) ∨
      ∃ skipped, before = front ++ skipped ∧ back = skipped ++ item :: after := by
  rcases List.append_eq_append_iff.mp cut with ⟨skipped, outside, later⟩ | ⟨rest, inside, same⟩
  · exact Or.inr ⟨skipped, outside, later⟩
  · rcases List.cons_eq_append_iff.mp same with ⟨rfl, first⟩ | ⟨rest, rfl, -⟩
    · exact Or.inr ⟨[], by simpa using inside.symm, first⟩
    · exact Or.inl ⟨rest, inside⟩

namespace Statement

mutual

/-- A clause around a statement is one that was there before or in the header of a block that comes
before the statement. -/
theorem exists_header_of_entries (path : List Nat) (clauses : List Clause) :
    (statement : Statement) → ∀ before entry after,
      statement.entries path clauses = before ++ entry :: after → ∀ clause ∈ entry.clauses,
        clause ∈ clauses ∨ ∃ other ∈ before, clause ∈ other.statement.header
  | .block own body => by
      intro before entry after cut clause around
      rw [entries] at cut
      rcases List.cons_eq_append_iff.mp cut with ⟨-, same⟩ | ⟨skipped, rfl, below⟩
      · obtain ⟨rfl, -⟩ := List.cons_eq_cons.mp same
        exact Or.inl around
      · rcases exists_header_of_entriesFrom path (clauses ++ own) 0 body skipped entry after below
          clause around with outside | ⟨other, inside, heads⟩
        · rcases List.mem_append.mp outside with outer | inner
          · exact Or.inl outer
          · exact Or.inr ⟨_, List.mem_cons_self, inner⟩
        · exact Or.inr ⟨other, List.mem_cons_of_mem _ inside, heads⟩
  | .title _ | .element _ _ | .relation _ _ | .member _ _ | .property _ _ _ | .tag _ _
  | .name _ _ | .description _ _ | .reaction _ _ _ _ _ | .transition _ _ _ => by
      intro before entry after cut clause around
      have listed : entry ∈ before ++ entry :: after := by simp
      rw [← cut] at listed
      obtain rfl := List.mem_singleton.mp listed
      exact Or.inl around

theorem exists_header_of_entriesFrom (parent : List Nat) (clauses : List Clause) (index : Nat) :
    (statements : List Statement) → ∀ before entry after,
      entriesFrom parent clauses index statements = before ++ entry :: after →
        ∀ clause ∈ entry.clauses,
          clause ∈ clauses ∨ ∃ other ∈ before, clause ∈ other.statement.header
  | [] => by
      intro before entry after cut
      simp [entriesFrom] at cut
  | statement :: rest => by
      intro before entry after cut clause around
      rw [entriesFrom] at cut
      rcases cut_of_append_eq cut with ⟨rest, first⟩ | ⟨skipped, rfl, later⟩
      · exact exists_header_of_entries (parent ++ [index]) clauses statement before entry rest
          first clause around
      · refine (exists_header_of_entriesFrom parent clauses (index + 1) rest skipped entry after
          later clause around).imp_right ?_
        exact fun ⟨other, inside, heads⟩ => ⟨other, List.mem_append_right _ inside, heads⟩

end

end Statement

namespace Declarations

variable {declarations : Declarations}

theorem exists_earlier_header {before after : List Entry} {entry : Entry}
    (cut : declarations.entries = before ++ entry :: after) {clause : Clause}
    (around : clause ∈ entry.clauses) : ∃ other ∈ before, clause ∈ other.statement.header :=
  (Statement.exists_header_of_entriesFrom [] [] 0 declarations before entry after cut clause
    around).resolve_left List.not_mem_nil

theorem exists_header {entry : Entry} (listed : entry ∈ declarations.entries) {clause : Clause}
    (around : clause ∈ entry.clauses) :
    ∃ other ∈ declarations.entries, clause ∈ other.statement.header := by
  obtain ⟨before, after, cut⟩ := List.append_of_mem listed
  obtain ⟨other, inside, heads⟩ := exists_earlier_header cut around
  exact ⟨other, cut ▸ List.mem_append_left _ inside, heads⟩

end Declarations

/-! ## Rules that start from `Empty` -/

/-- No rule starts from `Empty`, whatever names its variables have. -/
def Occupied (entries : List Entry) : Prop :=
  ∀ entry ∈ entries, ∀ term, entry.statement.reactant? = some term → ∀ names : String → String,
    (∀ clause ∈ entry.clauses,
      Follows entries clause.relation (clause.terms.map (Term.read names))) →
    term.read names ≠ emptyName

namespace Directive

theorem startsFromEmpty_iff {directive : Directive} {place : Nat} {row : Row}
    {consequence : Consequence} (success : directive.consequence? place row = some consequence) :
    consequence.startsFromEmpty = true ↔
      ∃ slot, directive.action.reactant? = some slot ∧
        row.element? slot = some ElementId.empty := by
  rw [consequence?] at success
  split at success
  case h_1 => cases success
  case h_6 action =>
    split at success
    · cases success
      rename_i left _ _ _
      simp [Consequence.startsFromEmpty, action, Action.reactant?, left, ElementId.isEmpty]
    · cases success
  case h_7 action =>
    split at success
    · cases success
      rename_i source _
      simp [Consequence.startsFromEmpty, action, Action.reactant?, source, ElementId.isEmpty]
    · cases success
  all_goals
    rename_i action
    obtain ⟨_, -, rfl⟩ := Option.map_eq_some_iff.mp success
    simp [Consequence.startsFromEmpty, action, Action.reactant?]

theorem slot_of_reactant? (directive : Directive) {slot : Slot}
    (starts : directive.action.reactant? = some slot) : slot ∈ directive.action.slots := by
  cases action : directive.action <;>
    simp [action, Action.reactant?, Action.slots] at starts ⊢
  all_goals simp [starts]

end Directive

namespace Declared

variable {declared : Declared} {directives : List Directive} {entries : List Entry}

/-- What a rule starts from resolves to what its directive starts from. -/
theorem reactant_of_directs {entry : Entry} {directive : Directive}
    (directs : declared.Directs entry directive) :
    Option.Rel (declared.ResolvesUnder entry.clauses) entry.statement.reactant?
      directive.action.reactant? := by
  have acts := directs.acts
  have slots := directs.slots
  generalize entry.statement = statement at acts slots
  generalize directive.action = action at acts slots
  cases acts with
  | reaction | transition =>
      obtain _ | ⟨first, _⟩ := slots
      exact .some first
  | _ => exact .none

section Gathered

variable (gathered : Declared.ofEntries entries = .ok declared)

include gathered

theorem nameOf_eq_empty_iff {id : ElementId} (inside : id.toNat < declared.catalog.size) :
    declared.nameOf id = emptyName ↔ id = ElementId.empty := by
  have first : declared.catalog.names.find? emptyName = some 0 := by
    rw [Roster.find?_eq_some_iff, ← Array.getElem?_toList, (lists_of_gathered gathered).elements]
    rfl
  constructor
  · intro same
    have found := find?_nameOf inside
    rw [same, first] at found
    exact ElementId.toNat_injective (Option.some.inj found).symm
  · rintro rfl
    exact nameOf_of_find? first

variable (checked : declared.directives entries = .ok directives)

include checked

/-- A rule that starts from `Empty` comes from a statement that does for some names. -/
theorem exists_reactant_of_startsFromEmpty {directive : Directive} (given : directive ∈ directives)
    {consequence : Consequence}
    (listed : consequence ∈ directive.consequences (declared.closed directives))
    (spoiled : consequence.startsFromEmpty = true) :
    ∃ entry ∈ entries, directive.path = entry.path ∧ ∃ term, ∃ names : String → String,
      entry.statement.reactant? = some term ∧
      (∀ clause ∈ entry.clauses,
        Follows entries clause.relation (clause.terms.map (Term.read names))) ∧
      term.read names = emptyName := by
  obtain ⟨row, picked, place, success⟩ := Directive.exists_row_of_mem_consequences listed
  obtain ⟨entry, standing, directs⟩ := exists_entry checked given
  obtain ⟨slot, starts, found⟩ := (Directive.startsFromEmpty_iff success).mp spoiled
  have comes := reactant_of_directs directs
  rw [starts] at comes
  generalize reactant : entry.statement.reactant? = reactant' at comes
  cases comes with
  | @some term _ resolves =>
      have met := metBy_of_mem_rows gathered checked directs picked
      refine ⟨entry, standing, directs.path, term, _, reactant,
        (metBy_iff gathered checked).mp met, ?_⟩
      have licenses := (fills_closed gathered checked).licenses directs picked
      have value := Row.element?_eq_value row.admits_solution
        (licenses.slots slot (directive.slot_of_reactant? starts))
      rw [← nameOf_value resolves.1, ← Option.some.inj (found.symm.trans value)]
      have first : ElementId.empty.toNat < declared.catalog.size := declared.catalog.size_pos
      exact (nameOf_eq_empty_iff gathered first).mpr rfl

/-- Rules that start from `Empty` can be told by names. -/
theorem occupied_iff :
    (∀ consequence ∈ declared.consequences directives, consequence.startsFromEmpty = false) ↔
      Occupied entries := by
  constructor
  · intro occupied entry listed term reactant names follows empty
    have speaks : entry.statement.isSilent = false ∧ entry.statement.isMember = false := by
      cases statement : entry.statement <;>
        simp [statement, Statement.reactant?, Statement.isSilent, Statement.isMember] at reactant ⊢
    obtain ⟨directive, given, directs⟩ := exists_directive checked listed speaks.1
    have comes := reactant_of_directs directs
    rw [reactant] at comes
    generalize starts : directive.action.reactant? = reactant' at comes
    cases comes with
    | @some _ slot resolves =>
        have met := (metBy_iff gathered checked).mpr follows
        obtain ⟨row, picked, admits⟩ := exists_row_of_metBy gathered checked directs met
        have licenses := (fills_closed gathered checked).licenses directs picked
        obtain ⟨place, stands⟩ := List.getElem?_of_mem picked
        have numbered := List.mk_mem_zipIdx_iff_getElem?.mpr stands
        obtain ⟨consequence, success, -⟩ :=
          consequence_eq directs licenses.slots speaks.2 place
        have among : consequence ∈ declared.consequences directives :=
          List.mem_flatMap.mpr ⟨directive, given, List.mem_filterMap.mpr ⟨_, numbered, success⟩⟩
        have named := read_identify gathered checked met resolves
        rw [empty] at named
        have found := Row.element?_eq_value admits
          (licenses.slots slot (directive.slot_of_reactant? starts))
        have small := Directive.element?_lt (wellFormed_of_directs directs)
          (within_closed gathered checked) picked (directive.slot_of_reactant? starts) found
        rw [(nameOf_eq_empty_iff gathered small).mp named] at found
        have spoiled := (Directive.startsFromEmpty_iff success).mpr ⟨slot, starts, found⟩
        exact Bool.false_ne_true ((occupied consequence among).symm.trans spoiled)
  · intro occupied consequence listed
    rw [Bool.eq_false_iff]
    intro spoiled
    obtain ⟨directive, given, listed⟩ := List.mem_flatMap.mp listed
    obtain ⟨entry, standing, -, term, names, reactant, follows, empty⟩ :=
      exists_reactant_of_startsFromEmpty gathered checked given listed spoiled
    exact occupied entry standing term reactant names follows empty

end Gathered
end Declared

/-! ## The verdict -/

theorem Vocabulary.FitsStatement.header {vocabulary : Vocabulary} {statement : Statement}
    (fits : vocabulary.FitsStatement statement) {clause : Clause}
    (heads : clause ∈ statement.header) : vocabulary.FitsClause clause := by
  cases statement with
  | block own body => exact fits clause heads
  | _ => cases heads

namespace Declarations

variable {declarations : Declarations}

/-- The names that a mod may use. -/
def vocabulary (declarations : Declarations) : Vocabulary :=
  Vocabulary.initial.extend declarations.entries

theorem Accepted.sound (accepted : declarations.Accepted) : declarations.vocabulary.Sound where
  elements := List.nodup_cons.mpr ⟨accepted.empty, accepted.elements⟩
  room := Nat.succ_le_succ accepted.room
  relations := accepted.relations
  arities relation member := Nat.one_le_iff_ne_zero.mp (accepted.arities relation member)

theorem Accepted.fitsClause (accepted : declarations.Accepted) {entry : Entry}
    (listed : entry ∈ declarations.entries) {clause : Clause}
    (heads : clause ∈ entry.statement.header) : declarations.vocabulary.FitsClause clause := by
  refine ⟨accepted.clauses entry listed clause heads, fun term mentioned => ?_⟩
  cases term with
  | var name => trivial
  | element name =>
      have used := List.mem_append_right entry.statement.terms
        (List.mem_flatMap.mpr ⟨clause, heads, mentioned⟩)
      exact List.mem_cons.mpr (accepted.names entry listed name used)

theorem Accepted.fitsStatement (accepted : declarations.Accepted) {entry : Entry}
    (listed : entry ∈ declarations.entries) :
    declarations.vocabulary.FitsStatement entry.statement := by
  cases statement : entry.statement with
  | block own body =>
      intro clause heads
      exact accepted.fitsClause listed (by rw [statement]; exact heads)
  | member relation terms =>
      have named := accepted.members entry listed relation terms statement
      refine ⟨named, ?_⟩
      rintro rfl
      exact Nat.not_succ_le_zero 0 (accepted.arities _ named)
  | property key subject value =>
      exact accepted.properties entry listed key subject value statement
  | reaction probability left right outLeft outRight =>
      refine ⟨accepted.probabilities entry listed probability (by rw [statement]; rfl), ?_⟩
      rintro rfl
      exact accepted.reactants entry listed (by rw [statement]; rfl)
  | transition probability source target =>
      refine ⟨accepted.probabilities entry listed probability (by rw [statement]; rfl), ?_⟩
      rintro rfl
      exact accepted.reactants entry listed (by rw [statement]; rfl)
  | _ => trivial

theorem Accepted.fits (accepted : declarations.Accepted) {entry : Entry}
    (listed : entry ∈ declarations.entries) : declarations.vocabulary.FitsEntry entry := by
  refine ⟨fun clause around => ?_, accepted.fitsStatement listed, fun term used => ?_⟩
  · obtain ⟨other, inside, heads⟩ := exists_header listed around
    exact accepted.fitsClause inside heads
  · cases term with
    | element name =>
        have known := accepted.names entry listed name (List.mem_append_left _ used)
        exact ⟨List.mem_cons.mpr known, trivial⟩
    | var name => exact ⟨trivial, accepted.bound entry listed name used⟩

theorem Accepted.occupied (accepted : declarations.Accepted) : Occupied declarations.entries := by
  intro entry listed term reactant names follows
  cases term with
  | element name =>
      rintro rfl
      exact accepted.reactants entry listed reactant
  | var name => exact accepted.bindings entry listed name reactant names follows

theorem accepted_of_fits
    (top : ∀ entry ∈ declarations.entries, entry.declares = true → entry.clauses = [])
    (sound : declarations.vocabulary.Sound)
    (fits : ∀ entry ∈ declarations.entries, declarations.vocabulary.FitsEntry entry)
    (occupied : Occupied declarations.entries) : declarations.Accepted where
  top := top
  elements := (List.nodup_cons.mp sound.elements).2
  empty := (List.nodup_cons.mp sound.elements).1
  room := Nat.le_of_succ_le_succ sound.room
  relations := sound.relations
  arities relation member := Nat.one_le_iff_ne_zero.mpr (sound.arities relation member)
  clauses entry listed clause heads := ((fits entry listed).2.1.header heads).1
  members entry listed relation terms statement := by
    have fitting := (fits entry listed).2.1
    rw [statement] at fitting
    exact fitting.1
  names entry listed name used := by
    rcases List.mem_append.mp used with here | below
    · exact List.mem_cons.mp ((fits entry listed).2.2 _ here).1
    · obtain ⟨clause, heads, mentioned⟩ := List.mem_flatMap.mp below
      have fitting := (fits entry listed).2.1.header heads
      exact List.mem_cons.mp (fitting.2 _ mentioned)
  bound entry listed name used := ((fits entry listed).2.2 _ used).2
  properties entry listed key subject value statement := by
    have fitting := (fits entry listed).2.1
    rw [statement] at fitting
    exact fitting
  probabilities entry listed probability given := by
    have fitting := (fits entry listed).2.1
    cases shape : entry.statement with
    | reaction | transition =>
        rw [shape] at fitting given
        exact Option.some.inj given ▸ fitting.1
    | _ => simp [shape, Statement.probability?] at given
  reactants entry listed reactant := by
    have fitting := (fits entry listed).2.1
    cases shape : entry.statement with
    | reaction | transition =>
        rw [shape] at fitting reactant
        exact fitting.2 (Option.some.inj reactant)
    | _ => simp [shape, Statement.reactant?] at reactant
  bindings entry listed name reactant names follows :=
    occupied entry listed (.var name) reactant names follows

/-- Once the statements of a mod are checked, compiling fails only at one that amounts to a rule
that starts from `Empty`. -/
theorem exists_spoiled_of_error {declared : Declared} {directives : List Directive}
    (gathered : Declared.ofEntries declarations.entries = .ok declared)
    (checked : declared.directives declarations.entries = .ok directives) {error : CompileError}
    (fails : declarations.compile = .error error) :
    ∃ directive ∈ directives, error = ⟨directive.path, .emptyReactant⟩ ∧
      ∃ consequence ∈ directive.consequences (declared.closed directives),
        consequence.startsFromEmpty = true := by
  simp only [compile, gathered, checked, ok_bind] at fails
  rcases bind_eq_error_iff.mp fails with failed | ⟨_, -, impossible⟩
  · obtain ⟨directive, listed, failed⟩ := exists_of_mapM_eq_error failed
    rw [Directive.checkedConsequences] at failed
    split at failed
    · rename_i spoiled
      cases failed
      exact ⟨directive, listed, rfl, List.any_eq_true.mp spoiled⟩
    · cases failed
  · cases impossible

theorem fault_of_error {declared : Declared} {directives : List Directive}
    (gathered : Declared.ofEntries declarations.entries = .ok declared)
    (checked : declared.directives declarations.entries = .ok directives) {error : CompileError}
    (fails : declarations.compile = .error error) : error.fault = .emptyReactant := by
  obtain ⟨_, -, rfl, -⟩ := exists_spoiled_of_error gathered checked fails
  rfl

/-- Compiling succeeds exactly for mods of which nothing is asked in vain. -/
theorem succeeds_iff : Succeeds declarations.compile ↔ declarations.Accepted := by
  constructor
  · rintro ⟨rules, compiled⟩
    obtain ⟨declared, directives, gathered, checked, occupied, -⟩ := compile_eq_ok_iff.mp compiled
    obtain ⟨top, sound⟩ := Declared.ofEntries_succeeds_iff.mp ⟨declared, gathered⟩
    have fits := (Declared.directives_succeeds_iff (Declared.lists_of_gathered gathered)).mp
      ⟨directives, checked⟩
    exact accepted_of_fits top sound fits ((Declared.occupied_iff gathered checked).mp occupied)
  · intro accepted
    obtain ⟨declared, gathered⟩ :=
      Declared.ofEntries_succeeds_iff.mpr ⟨accepted.top, accepted.sound⟩
    obtain ⟨directives, checked⟩ :=
      (Declared.directives_succeeds_iff (Declared.lists_of_gathered gathered)).mpr
        fun entry listed => accepted.fits listed
    have occupied := (Declared.occupied_iff gathered checked).mpr accepted.occupied
    exact ⟨_, compile_eq_ok_iff.mpr ⟨declared, directives, gathered, checked, occupied, rfl⟩⟩

/-- A mod compiles exactly when it is accepted.  Once its declarations are gathered and its
statements checked, the tuples that follow are those of the closed registry, and compiling with all
checks in every later pass comes to the same and cannot fail but for a rule that starts from
`Empty`. -/
theorem compile_succeeds_iff_accepted (declarations : Declarations) :
    (Succeeds declarations.compile ↔ declarations.Accepted) ∧
      ∀ declared directives, Declared.ofEntries declarations.entries = .ok declared →
        declared.directives declarations.entries = .ok directives →
        (∀ relation names, Follows declarations.entries relation names ↔
          ∃ tuple ∈ (declared.closed directives).tuplesOf relation,
            tuple.map declared.nameOf = names) ∧
        (∀ outcome, declared.Finishes declarations.entries
            (declared.registry.withTemplates directives) outcome ↔
          outcome = declarations.compile) ∧
        ∀ error, declarations.compile = .error error → error.fault = .emptyReactant := by
  refine ⟨succeeds_iff, fun declared directives gathered checked => ?_⟩
  exact ⟨fun relation names => Declared.follows_iff gathered checked,
    fun outcome => Declared.finishes_iff gathered checked,
    fun error => fault_of_error gathered checked⟩

/-- Whatever fades vanishes, and `Empty` fades. -/
def fading : Declarations :=
  [.element "Ghost" "#f0f0ff", .relation "Fading" 1,
    .member "Fading" [.element "Ghost"], .member "Fading" [.element "Empty"],
    .block [⟨"Fading", [.var "thing"]⟩]
      [.transition Single.one (.var "thing") (.element "Empty")]]

theorem fading_rejected :
    ∃ error, fading.compile = .error error ∧ error.fault = .emptyReactant := by
  obtain ⟨verdict, later⟩ := compile_succeeds_iff_accepted fading
  have top : ∀ entry ∈ fading.entries, entry.declares = true → entry.clauses = [] := by decide
  have sound : fading.vocabulary.Sound := ⟨by decide, by decide, by decide, by decide⟩
  have fits : ∀ entry ∈ fading.entries, fading.vocabulary.FitsEntry entry := by decide
  obtain ⟨declared, gathered⟩ := Declared.ofEntries_succeeds_iff.mpr ⟨top, sound⟩
  obtain ⟨directives, checked⟩ :=
    (Declared.directives_succeeds_iff (Declared.lists_of_gathered gathered)).mpr fits
  have refused : ¬Succeeds fading.compile := by
    intro success
    have listed : ⟨[3], [], .member "Fading" [.element "Empty"]⟩ ∈ fading.entries :=
      List.mem_of_getElem? (i := 3) rfl
    have fades : Follows fading.entries "Fading" ([Term.element "Empty"].map (Term.read id)) :=
      .member listed rfl (by simp)
    exact (verdict.mp success).bindings _ (List.mem_of_getElem? (i := 5) rfl) "thing" rfl
      (fun _ => "Empty") (by simpa [Term.read] using fades) rfl
  cases outcome : fading.compile with
  | ok rules => exact absurd ⟨rules, outcome⟩ refused
  | error error =>
      exact ⟨error, rfl, (later declared directives gathered checked).2.2 error outcome⟩

end Declarations

end FallingSand
