import FallingSand.Mod.Directive
import FallingSand.Proofs.Mod.Rows
import FallingSand.Proofs.Success
import Mathlib.Data.List.Nodup

/-!
# What a checked statement guarantees

Checking a statement resolves its names.  This file says what the directive that comes out has to do
with the statement: every slot stands for its term, every pattern for its clause, every tuple has
the length of its relation, and every variable occurs in a pattern.  The directives of a mod line up
with its entries.
-/

namespace FallingSand

/-! ## Terms and their slots -/

namespace Catalog

/-- The element that a term stands for under an assignment, if its name is known. -/
def value? (catalog : Catalog) (assignment : Assignment) : Term → Option ElementId
  | .element name => (catalog.names.find? name).map fun place => ⟨UInt16.ofNat place⟩
  | .var name => some (assignment name)

/-- The element belongs to the catalog. -/
def Has (catalog : Catalog) (id : ElementId) : Prop :=
  id.toNat < catalog.size

theorem has_of_find? {catalog : Catalog} {name : String} {place : Nat}
    (found : catalog.names.find? name = some place) : catalog.Has ⟨UInt16.ofNat place⟩ := by
  have inside : place < catalog.size := Roster.find?_lt found
  have room : catalog.size ≤ 65536 := catalog.size_le
  have value : (UInt16.ofNat place).toNat = place :=
    UInt16.toNat_ofNat_of_lt' (Nat.lt_of_lt_of_le inside room)
  simpa [Has, ElementId.toNat, value] using inside

end Catalog

namespace Declared

variable {declared : Declared} {assignment : Assignment}

/-- The slot is what the term resolves to. -/
def Resolves (declared : Declared) (term : Term) (slot : Slot) : Prop :=
  declared.patternSlot term = .ok slot

theorem resolves_element {name : String} {slot : Slot}
    (resolves : declared.Resolves (.element name) slot) :
    ∃ place, declared.catalog.names.find? name = some place ∧
      slot = .element ⟨UInt16.ofNat place⟩ := by
  simp only [Resolves, patternSlot, Catalog.idOf] at resolves
  cases found : declared.catalog.names.find? name with
  | none => simp [found, bind, Except.bind] at resolves
  | some place =>
      simp only [found, bind, Except.bind, pure, Except.pure, Except.ok.injEq] at resolves
      exact ⟨place, rfl, resolves.symm⟩

theorem resolves_var {name : String} {slot : Slot} :
    declared.Resolves (.var name) slot ↔ slot = .var name := by
  simp [Resolves, patternSlot, eq_comm]

theorem value?_of_resolves {term : Term} {slot : Slot} (resolves : declared.Resolves term slot) :
    declared.catalog.value? assignment term = some (slot.value assignment) := by
  cases term with
  | element name =>
      obtain ⟨place, found, rfl⟩ := resolves_element resolves
      simp [Catalog.value?, found, Slot.value]
  | var name =>
      obtain rfl := resolves_var.mp resolves
      rfl

theorem mapM_value?_of_resolves {terms : List Term} {slots : List Slot}
    (resolves : List.Forall₂ declared.Resolves terms slots) :
    terms.mapM (declared.catalog.value? assignment) =
      some (slots.map (Slot.value assignment)) := by
  induction resolves with
  | nil => rfl
  | cons resolves _ ih => simp [List.mapM_cons, value?_of_resolves resolves, ih]

/-! ## Clauses and their patterns -/

/-- The pattern is what the clause resolves to. -/
structure Matches (declared : Declared) (clause : Clause) (pattern : Pattern) : Prop where
  /-- The relation has the name that the clause gives. -/
  relation : declared.registry.names.find? clause.relation = some pattern.relation
  /-- There are as many terms as the tuples are long. -/
  arity : declared.registry.arityAt? pattern.relation = some pattern.slots.length
  /-- Every slot comes from its term. -/
  slots : List.Forall₂ declared.Resolves clause.terms pattern.slots

theorem getFitting_ok {registry : Registry} {name : String} {found : Nat} {relation : Relation}
    (success : registry.getFitting name found = .ok relation) :
    ∃ place, registry.names.find? name = some place ∧ registry.arityAt? place = some found := by
  obtain ⟨other, got, rest⟩ := bind_eq_ok_iff.mp success
  have same : other.arity = found := by
    by_contra different
    simp [different] at rest
  simp only [Registry.get] at got
  cases bound : (registry.names.find? name).bind (registry.relations[·]?) with
  | none => simp [bound] at got
  | some listed =>
      obtain ⟨place, named, stands⟩ := Option.bind_eq_some_iff.mp bound
      have equal : listed = other := by simpa [bound] using got
      exact ⟨place, named, by simp [Registry.arityAt?, stands, equal, same]⟩

theorem placeOf_ok {registry : Registry} {name : String} {place : Nat}
    (success : registry.placeOf name = .ok place) : registry.names.find? name = some place := by
  simp only [Registry.placeOf] at success
  cases found : registry.names.find? name with
  | none => simp [found] at success
  | some other =>
      have same : other = place := by simpa [found] using success
      rw [same]

theorem matches_of_pattern {clause : Clause} {pattern : Pattern}
    (success : declared.pattern clause = .ok pattern) : declared.Matches clause pattern := by
  obtain ⟨relation, fitting, rest⟩ := bind_eq_ok_iff.mp success
  obtain ⟨place, placed, rest⟩ := bind_eq_ok_iff.mp rest
  obtain ⟨slots, resolved, same⟩ := bind_eq_ok_iff.mp rest
  cases same
  obtain ⟨other, named, arity⟩ := getFitting_ok fitting
  have placed := placeOf_ok placed
  have resolves := mapM_eq_ok_iff.mp resolved
  obtain rfl : other = place := Option.some.inj (named.symm.trans placed)
  exact ⟨placed, by rw [arity, resolves.length_eq], resolves⟩

/-! ## Statements and their actions -/

/-- The slot is what a term resolves to that stands under some clauses. -/
def ResolvesUnder (declared : Declared) (clauses : List Clause) (term : Term) (slot : Slot) :
    Prop :=
  declared.Resolves term slot ∧
    ∀ name, term = .var name → ∃ clause ∈ clauses, .var name ∈ clause.terms

theorem resolvesUnder_of_slot {clauses : List Clause} {term : Term} {slot : Slot}
    (success : declared.slot clauses term = .ok slot) :
    declared.ResolvesUnder clauses term slot := by
  cases term with
  | element name => exact ⟨success, by simp⟩
  | var name =>
      rw [Declared.slot] at success
      split at success
      · rename_i mentioned
        refine ⟨success, ?_⟩
        rintro _ ⟨⟩
        simpa using mentioned
      · cases success

end Declared

/-- The slots that an action fills for every row. -/
def Action.slots : Action → List Slot
  | .member _ subject args => subject :: args
  | .property _ subject _ => [subject]
  | .tag subject _ => [subject]
  | .displayName subject _ => [subject]
  | .description subject _ => [subject]
  | .reaction _ left right outLeft outRight => [left, right, outLeft, outRight]
  | .transition _ source target => [source, target]

/-- What a mod declares, as far as tuples are concerned. -/
structure Shape where
  /-- The length of the tuples of each relation. -/
  arity : Nat → Option Nat
  /-- The number of elements. -/
  elements : Nat

namespace Directive

/-- A slot that a directive may fill: a declared element or a variable of its patterns. -/
def Knows (shape : Shape) (directive : Directive) : Slot → Prop
  | .element id => id.toNat < shape.elements
  | .var name => ∃ pattern ∈ directive.patterns, .var name ∈ pattern.slots

/-- The patterns and the action fit what is declared. -/
structure WellFormed (shape : Shape) (directive : Directive) : Prop where
  /-- Every pattern is as long as the tuples of its relation. -/
  patterns : ∀ pattern ∈ directive.patterns,
    shape.arity pattern.relation = some pattern.slots.length
  /-- Every slot can be filled. -/
  slots : ∀ slot ∈ directive.action.slots, directive.Knows shape slot
  /-- A tuple to be added is as long as those of its relation. -/
  member : ∀ place subject args, directive.action = .member place subject args →
    shape.arity place = some (args.length + 1)

end Directive

/-- Whether a statement does nothing for a row: it declares, or it only holds other statements. -/
def Statement.isSilent : Statement → Bool
  | .title _ | .element _ _ | .relation _ _ | .block _ _ => true
  | _ => false

theorem Entry.locate_eq_ok {α : Type} {entry : Entry} {result : Except Fault α} {value : α}
    (success : entry.locate result = .ok value) : result = .ok value := by
  cases result with
  | ok _ =>
      cases success
      rfl
  | error _ => cases success

namespace Declared

variable {declared : Declared}

/-- The action that a statement of its kind gets, with what the checks of that kind ensure. -/
inductive Acts (declared : Declared) : Statement → Action → Prop where
  /-- The tuple is as long as the relation asks. -/
  | member {relation : String} {terms : List Term} {place : Nat} {subject : Slot}
      {args : List Slot} (named : declared.registry.names.find? relation = some place)
      (arity : declared.registry.arityAt? place = some (args.length + 1)) :
      Acts declared (.member relation terms) (.member place subject args)
  /-- The value is one that the property takes. -/
  | property {key : PropertyKey} {term : Term} {slot : Slot} {value : Single}
      (accepted : key.accepts value = true) :
      Acts declared (.property key term value) (.property key slot value)
  /-- Any tag will do. -/
  | tag {term : Term} {slot : Slot} {text : String} :
      Acts declared (.tag term text) (.tag slot text)
  /-- Any name will do. -/
  | name {term : Term} {slot : Slot} {text : String} :
      Acts declared (.name term text) (.displayName slot text)
  /-- Any text will do. -/
  | description {term : Term} {slot : Slot} {text : String} :
      Acts declared (.description term text) (.description slot text)
  /-- The probability is one. -/
  | reaction {probability : Single} {left right outLeft outRight : Term}
      {left' right' outLeft' outRight' : Slot}
      (possible : Single.zero.le probability = true ∧ probability.le Single.one = true) :
      Acts declared (.reaction probability left right outLeft outRight)
        (.reaction probability left' right' outLeft' outRight')
  /-- The probability is one. -/
  | transition {probability : Single} {source target : Term} {source' target' : Slot}
      (possible : Single.zero.le probability = true ∧ probability.le Single.one = true) :
      Acts declared (.transition probability source target)
        (.transition probability source' target')

theorem checkProbability_ok {probability : Single} {checked : Unit}
    (success : checkProbability probability = .ok checked) :
    Single.zero.le probability = true ∧ probability.le Single.one = true := by
  rw [checkProbability] at success
  split at success
  · rename_i possible
    simpa using possible
  · cases success

/-- What the action of a checked statement has to do with it. -/
theorem acts_of_action? {clauses : List Clause} {statement : Statement} {action : Action}
    (success : declared.action? clauses statement = .ok (some action)) :
    declared.Acts statement action ∧
      List.Forall₂ (declared.ResolvesUnder clauses) statement.terms action.slots := by
  cases statement with
  | title _ => cases success
  | element _ _ => cases success
  | relation _ _ => cases success
  | block own body =>
      obtain ⟨_, _, rest⟩ := bind_eq_ok_iff.mp success
      cases rest
  | member relation terms =>
      obtain ⟨found, fitting, rest⟩ := bind_eq_ok_iff.mp success
      obtain ⟨place, placed, rest⟩ := bind_eq_ok_iff.mp rest
      obtain ⟨slots, resolved, rest⟩ := bind_eq_ok_iff.mp rest
      have resolves := (mapM_eq_ok_iff.mp resolved).imp fun _ _ => resolvesUnder_of_slot
      obtain ⟨other, named, arity⟩ := getFitting_ok fitting
      have placed := placeOf_ok placed
      obtain rfl : other = place := Option.some.inj (named.symm.trans placed)
      cases slots with
      | nil => cases rest
      | cons subject args =>
          cases rest
          refine ⟨.member placed ?_, resolves⟩
          rw [arity, resolves.length_eq, List.length_cons]
  | property key subject value =>
      rw [Declared.action?] at success
      split at success
      · rename_i accepted
        obtain ⟨slot, resolved, rest⟩ := bind_eq_ok_iff.mp success
        cases rest
        exact ⟨.property accepted, .cons (resolvesUnder_of_slot resolved) .nil⟩
      · cases success
  | tag subject text =>
      obtain ⟨slot, resolved, rest⟩ := bind_eq_ok_iff.mp success
      cases rest
      exact ⟨.tag, .cons (resolvesUnder_of_slot resolved) .nil⟩
  | name subject text =>
      obtain ⟨slot, resolved, rest⟩ := bind_eq_ok_iff.mp success
      cases rest
      exact ⟨.name, .cons (resolvesUnder_of_slot resolved) .nil⟩
  | description subject text =>
      obtain ⟨slot, resolved, rest⟩ := bind_eq_ok_iff.mp success
      cases rest
      exact ⟨.description, .cons (resolvesUnder_of_slot resolved) .nil⟩
  | reaction probability left right outLeft outRight =>
      obtain ⟨_, possible, rest⟩ := bind_eq_ok_iff.mp success
      obtain ⟨_, _, rest⟩ := bind_eq_ok_iff.mp rest
      obtain ⟨left', first, rest⟩ := bind_eq_ok_iff.mp rest
      obtain ⟨right', second, rest⟩ := bind_eq_ok_iff.mp rest
      obtain ⟨outLeft', third, rest⟩ := bind_eq_ok_iff.mp rest
      obtain ⟨outRight', fourth, rest⟩ := bind_eq_ok_iff.mp rest
      cases rest
      exact ⟨.reaction (checkProbability_ok possible),
        .cons (resolvesUnder_of_slot first) (.cons (resolvesUnder_of_slot second)
          (.cons (resolvesUnder_of_slot third) (.cons (resolvesUnder_of_slot fourth) .nil)))⟩
  | transition probability source target =>
      obtain ⟨_, possible, rest⟩ := bind_eq_ok_iff.mp success
      obtain ⟨_, _, rest⟩ := bind_eq_ok_iff.mp rest
      obtain ⟨source', first, rest⟩ := bind_eq_ok_iff.mp rest
      obtain ⟨target', second, rest⟩ := bind_eq_ok_iff.mp rest
      cases rest
      exact ⟨.transition (checkProbability_ok possible),
        .cons (resolvesUnder_of_slot first) (.cons (resolvesUnder_of_slot second) .nil)⟩

theorem isSilent_of_action? {clauses : List Clause} {statement : Statement}
    (success : declared.action? clauses statement = .ok none) : statement.isSilent = true := by
  cases statement with
  | title _ => rfl
  | element _ _ => rfl
  | relation _ _ => rfl
  | block own body => rfl
  | member relation terms =>
      obtain ⟨_, _, rest⟩ := bind_eq_ok_iff.mp success
      obtain ⟨_, _, rest⟩ := bind_eq_ok_iff.mp rest
      obtain ⟨slots, _, rest⟩ := bind_eq_ok_iff.mp rest
      cases slots <;> cases rest
  | property key subject value =>
      rw [Declared.action?] at success
      split at success
      · obtain ⟨_, _, rest⟩ := bind_eq_ok_iff.mp success
        cases rest
      · cases success
  | tag subject text | name subject text | description subject text =>
      obtain ⟨_, _, rest⟩ := bind_eq_ok_iff.mp success
      cases rest
  | reaction probability left right outLeft outRight =>
      obtain ⟨_, _, rest⟩ := bind_eq_ok_iff.mp success
      obtain ⟨_, _, rest⟩ := bind_eq_ok_iff.mp rest
      obtain ⟨_, _, rest⟩ := bind_eq_ok_iff.mp rest
      obtain ⟨_, _, rest⟩ := bind_eq_ok_iff.mp rest
      obtain ⟨_, _, rest⟩ := bind_eq_ok_iff.mp rest
      obtain ⟨_, _, rest⟩ := bind_eq_ok_iff.mp rest
      cases rest
  | transition probability source target =>
      obtain ⟨_, _, rest⟩ := bind_eq_ok_iff.mp success
      obtain ⟨_, _, rest⟩ := bind_eq_ok_iff.mp rest
      obtain ⟨_, _, rest⟩ := bind_eq_ok_iff.mp rest
      obtain ⟨_, _, rest⟩ := bind_eq_ok_iff.mp rest
      cases rest

/-! ## Entries and their directives -/

/-- The directive is what the statement of the entry comes to. -/
structure Directs (declared : Declared) (entry : Entry) (directive : Directive) : Prop where
  /-- Both are found in the same place. -/
  path : directive.path = entry.path
  /-- Every pattern comes from its clause. -/
  patterns : List.Forall₂ declared.Matches entry.clauses directive.patterns
  /-- The action is one for that kind of statement. -/
  acts : declared.Acts entry.statement directive.action
  /-- Every slot comes from its term. -/
  slots : List.Forall₂ (declared.ResolvesUnder entry.clauses) entry.statement.terms
    directive.action.slots

/-- What comes of an entry and its ordinal. -/
inductive Yields (declared : Declared) : Entry × Nat → Option Directive → Prop where
  /-- Nothing, if the statement is silent. -/
  | silent {entry : Entry} {ordinal : Nat} (silent : entry.statement.isSilent = true) :
      Yields declared (entry, ordinal) none
  /-- A directive of the same ordinal. -/
  | directive {entry : Entry} {directive : Directive} (directs : declared.Directs entry directive) :
      Yields declared (entry, directive.ordinal) (some directive)

theorem yields_of_directive? {entry : Entry} {ordinal : Nat} {result : Option Directive}
    (success : declared.directive? entry ordinal = .ok result) :
    declared.Yields (entry, ordinal) result := by
  obtain ⟨patterns, resolved, rest⟩ := bind_eq_ok_iff.mp success
  obtain ⟨action, checked, rest⟩ := bind_eq_ok_iff.mp rest
  cases action with
  | none =>
      cases rest
      exact .silent (isSilent_of_action? checked)
  | some action =>
      cases rest
      obtain ⟨acts, slots⟩ := acts_of_action? checked
      have directs : declared.Directs entry ⟨ordinal, entry.path, patterns, action⟩ :=
        { path := rfl
          patterns := (mapM_eq_ok_iff.mp resolved).imp fun _ _ => matches_of_pattern
          acts
          slots }
      exact .directive directs

/-- What the mod declares, as far as tuples are concerned. -/
def shape (declared : Declared) : Shape where
  arity := declared.registry.arityAt?
  elements := declared.catalog.size

theorem wellFormed_of_directs {entry : Entry} {directive : Directive}
    (directs : declared.Directs entry directive) : directive.WellFormed declared.shape where
  patterns pattern member := by
    obtain ⟨clause, -, comes⟩ := exists_of_mem_right directs.patterns member
    exact comes.arity
  slots slot member := by
    obtain ⟨term, -, resolves, mentioned⟩ := exists_of_mem_right directs.slots member
    cases term with
    | element name =>
        obtain ⟨place, found, rfl⟩ := resolves_element resolves
        exact Catalog.has_of_find? found
    | var name =>
        obtain rfl := resolves_var.mp resolves
        obtain ⟨clause, inside, mentions⟩ := mentioned name rfl
        obtain ⟨pattern, listed, comes⟩ := exists_of_mem_left directs.patterns inside
        obtain ⟨slot, filled, same⟩ := exists_of_mem_left comes.slots mentions
        exact ⟨pattern, listed, resolves_var.mp same ▸ filled⟩
  member place subject args action := by
    have acts := directs.acts
    rw [action] at acts
    generalize entry.statement = statement at acts
    cases acts with
    | member named arity => exact arity

/-- The directives are what the entries yield, in their order. -/
theorem yields_of_directives {entries : List Entry} {directives : List Directive}
    (success : declared.directives entries = .ok directives) :
    ∃ checked, List.Forall₂ declared.Yields entries.zipIdx checked ∧
      directives = checked.filterMap id := by
  obtain ⟨checked, resolved, same⟩ := bind_eq_ok_iff.mp success
  cases same
  exact ⟨checked, (mapM_eq_ok_iff.mp resolved).imp fun _ _ located =>
    yields_of_directive? (Entry.locate_eq_ok located), rfl⟩

/-- A directive has the ordinal of the entry that it comes from. -/
theorem exists_entry_at {entries : List Entry} {directives : List Directive}
    (success : declared.directives entries = .ok directives) {directive : Directive}
    (listed : directive ∈ directives) :
    ∃ entry, entries[directive.ordinal]? = some entry ∧ declared.Directs entry directive := by
  obtain ⟨checked, yields, rfl⟩ := yields_of_directives success
  obtain ⟨result, member, rfl⟩ := List.mem_filterMap.mp listed
  obtain ⟨⟨entry, ordinal⟩, inside, yield⟩ := exists_of_mem_right yields member
  cases yield with
  | directive directs => exact ⟨entry, List.mk_mem_zipIdx_iff_getElem?.mp inside, directs⟩

theorem exists_entry {entries : List Entry} {directives : List Directive}
    (success : declared.directives entries = .ok directives) {directive : Directive}
    (listed : directive ∈ directives) : ∃ entry ∈ entries, declared.Directs entry directive := by
  obtain ⟨entry, stands, directs⟩ := exists_entry_at success listed
  exact ⟨entry, List.mem_of_getElem? stands, directs⟩

/-- The entry at an ordinal has a directive of that ordinal. -/
theorem exists_directive_at {entries : List Entry} {directives : List Directive}
    (success : declared.directives entries = .ok directives) {entry : Entry} {ordinal : Nat}
    (stands : entries[ordinal]? = some entry) (speaks : entry.statement.isSilent = false) :
    ∃ directive ∈ directives, directive.ordinal = ordinal ∧ declared.Directs entry directive := by
  obtain ⟨checked, yields, rfl⟩ := yields_of_directives success
  have numbered : (entry, ordinal) ∈ entries.zipIdx := List.mk_mem_zipIdx_iff_getElem?.mpr stands
  obtain ⟨result, member, yield⟩ := exists_of_mem_left yields numbered
  cases yield with
  | silent silent => simp [silent] at speaks
  | directive directs => exact ⟨_, List.mem_filterMap.mpr ⟨_, member, rfl⟩, rfl, directs⟩

theorem exists_directive {entries : List Entry} {directives : List Directive}
    (success : declared.directives entries = .ok directives) {entry : Entry}
    (listed : entry ∈ entries) (speaks : entry.statement.isSilent = false) :
    ∃ directive ∈ directives, declared.Directs entry directive := by
  obtain ⟨ordinal, stands⟩ := List.getElem?_of_mem listed
  obtain ⟨directive, among, -, directs⟩ := exists_directive_at success stands speaks
  exact ⟨directive, among, directs⟩

theorem pairwise_of_yields {entries : List Entry} {start : Nat} {checked : List (Option Directive)}
    (yields : List.Forall₂ declared.Yields (entries.zipIdx start) checked) :
    (checked.filterMap id).Pairwise (fun first second : Directive =>
        first.ordinal < second.ordinal) ∧
      ∀ directive ∈ checked.filterMap id, start ≤ directive.ordinal := by
  induction entries generalizing start checked with
  | nil =>
      cases yields
      exact ⟨.nil, by simp⟩
  | cons entry entries ih =>
      rw [List.zipIdx_cons] at yields
      cases yields with
      | cons first rest =>
          obtain ⟨ordered, later⟩ := ih rest
          cases first with
          | silent quiet =>
              exact ⟨ordered, fun directive listed => Nat.le_of_succ_le (later directive listed)⟩
          | @directive _ directive directs =>
              refine ⟨ordered.cons later, List.forall_mem_cons.mpr ⟨Nat.le_refl _, ?_⟩⟩
              exact fun directive listed => Nat.le_of_succ_le (later directive listed)

/-- The ordinals of the directives increase. -/
theorem pairwise_ordinal {entries : List Entry} {directives : List Directive}
    (success : declared.directives entries = .ok directives) :
    directives.Pairwise fun first second => first.ordinal < second.ordinal := by
  obtain ⟨checked, yields, rfl⟩ := yields_of_directives success
  exact (pairwise_of_yields yields).1

/-- Directives are told apart by their ordinals. -/
theorem eq_of_ordinal {entries : List Entry} {directives : List Directive}
    (success : declared.directives entries = .ok directives) {first second : Directive}
    (one : first ∈ directives) (other : second ∈ directives)
    (same : first.ordinal = second.ordinal) : first = second := by
  have distinct : (directives.map Directive.ordinal).Nodup :=
    (List.pairwise_map.mpr (pairwise_ordinal success)).imp Nat.ne_of_lt
  exact List.inj_on_of_nodup_map distinct one other same

end Declared
end FallingSand
