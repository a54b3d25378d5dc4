import FallingSand.Proofs.Mod.Resolution
import Mathlib.Data.List.Nodup

/-!
# What is accepted

The vocabulary of a mod, listed from its statements without looking any name up, decides whether the
mod is accepted.  Its declarations are gathered exactly when their names are fresh, and a statement
passes its checks exactly when it keeps to the vocabulary, binds its variables and has its numbers
in range.
-/

namespace FallingSand

/-! ## What is asked of a mod -/

/-- The names that a mod declares, in order. -/
structure Vocabulary where
  /-- Its elements, `Empty` included. -/
  elements : List String
  /-- Its relations with the lengths of their tuples. -/
  relations : List (String × Nat)

/-- A variable occurs in a clause. -/
def Bound (clauses : List Clause) : Term → Prop
  | .element _ => True
  | .var name => ∃ clause ∈ clauses, .var name ∈ clause.terms

instance (clauses : List Clause) : DecidablePred (Bound clauses)
  | .element _ => isTrue trivial
  | .var name => inferInstanceAs (Decidable (∃ clause ∈ clauses, .var name ∈ clause.terms))

/-- The probability of a rule lies between zero and one. -/
def Possible (probability : Single) : Prop :=
  Single.zero.le probability = true ∧ probability.le Single.one = true

instance : DecidablePred Possible :=
  fun _ => inferInstanceAs (Decidable (_ ∧ _))

namespace Entry

/-- The element that an entry declares, if any. -/
def elements (entry : Entry) : List String :=
  match entry.statement with
  | .element name _ => [name]
  | _ => []

/-- The relation that an entry declares, if any. -/
def relations (entry : Entry) : List (String × Nat) :=
  match entry.statement with
  | .relation name arity => [(name, arity)]
  | _ => []

/-- Whether an entry has to stand at the top. -/
def declares (entry : Entry) : Bool :=
  match entry.statement with
  | .title _ | .element _ _ | .relation _ _ => true
  | _ => false

end Entry

namespace Vocabulary

/-- The vocabulary of a mod that declares nothing. -/
def initial : Vocabulary where
  elements := [emptyName]
  relations := []

/-- The vocabulary with the declarations of further entries. -/
def extend (vocabulary : Vocabulary) (entries : List Entry) : Vocabulary where
  elements := vocabulary.elements ++ entries.flatMap Entry.elements
  relations := vocabulary.relations ++ entries.flatMap Entry.relations

/-- Names are declared once, within the room that there is, and tuples are not empty. -/
structure Sound (vocabulary : Vocabulary) : Prop where
  /-- The names of the elements are distinct. -/
  elements : vocabulary.elements.Nodup
  /-- There is an identifier for each of them. -/
  room : vocabulary.elements.length ≤ maxElements
  /-- The names of the relations are distinct. -/
  relations : (vocabulary.relations.map (·.1)).Nodup
  /-- Tuples have elements. -/
  arities : ∀ relation ∈ vocabulary.relations, relation.2 ≠ 0

/-- The name that a term gives, if any, is declared. -/
def Names (vocabulary : Vocabulary) : Term → Prop
  | .element name => name ∈ vocabulary.elements
  | .var _ => True

instance (vocabulary : Vocabulary) : DecidablePred vocabulary.Names
  | .element name => inferInstanceAs (Decidable (name ∈ vocabulary.elements))
  | .var _ => isTrue trivial

/-- The names of a term are declared and its variables bound. -/
def FitsTerm (vocabulary : Vocabulary) (clauses : List Clause) (term : Term) : Prop :=
  vocabulary.Names term ∧ Bound clauses term

/-- The clause names a declared relation, with as many terms as it takes, and declared elements. -/
def FitsClause (vocabulary : Vocabulary) (clause : Clause) : Prop :=
  (clause.relation, clause.terms.length) ∈ vocabulary.relations ∧
    ∀ term ∈ clause.terms, vocabulary.Names term

instance (vocabulary : Vocabulary) : DecidablePred vocabulary.FitsClause :=
  fun _ => inferInstanceAs (Decidable (_ ∧ _))

/-- What is asked of a statement besides its terms. -/
def FitsStatement (vocabulary : Vocabulary) : Statement → Prop
  | .title _ | .element _ _ | .relation _ _ => True
  | .tag _ _ | .name _ _ | .description _ _ => True
  | .block own _ => ∀ clause ∈ own, vocabulary.FitsClause clause
  | .member relation terms => (relation, terms.length) ∈ vocabulary.relations ∧ terms ≠ []
  | .property key _ value => key.accepts value = true
  | .reaction probability left _ _ _ => Possible probability ∧ left ≠ .element emptyName
  | .transition probability source _ => Possible probability ∧ source ≠ .element emptyName

instance (vocabulary : Vocabulary) : DecidablePred vocabulary.FitsStatement
  | .title _ | .element _ _ | .relation _ _ => isTrue trivial
  | .tag _ _ | .name _ _ | .description _ _ => isTrue trivial
  | .block own _ => inferInstanceAs (Decidable (∀ clause ∈ own, vocabulary.FitsClause clause))
  | .member _ _ | .reaction _ _ _ _ _ | .transition _ _ _ => inferInstanceAs (Decidable (_ ∧ _))
  | .property key _ value => inferInstanceAs (Decidable (key.accepts value = true))

/-- What is asked of an entry. -/
def FitsEntry (vocabulary : Vocabulary) (entry : Entry) : Prop :=
  (∀ clause ∈ entry.clauses, vocabulary.FitsClause clause) ∧
    vocabulary.FitsStatement entry.statement ∧
    ∀ term ∈ entry.statement.terms, vocabulary.FitsTerm entry.clauses term

instance (vocabulary : Vocabulary) : DecidablePred vocabulary.FitsEntry :=
  fun entry => inferInstanceAs (Decidable (_ ∧ _ ∧
    ∀ term ∈ entry.statement.terms, vocabulary.Names term ∧ Bound entry.clauses term))

end Vocabulary

/-! ## Gathering -/

namespace Vocabulary

variable {vocabulary : Vocabulary} {entry : Entry} {entries : List Entry}

theorem extend_cons : vocabulary.extend (entry :: entries) =
    (vocabulary.extend [entry]).extend entries := by
  simp [extend]

theorem Sound.of_extend (sound : (vocabulary.extend entries).Sound) : vocabulary.Sound where
  elements := (List.nodup_append.mp sound.elements).1
  room := by
    have room := sound.room
    simp only [extend, List.length_append] at room
    omega
  relations := by
    have distinct := sound.relations
    simp only [extend, List.map_append] at distinct
    exact (List.nodup_append.mp distinct).1
  arities relation member := sound.arities relation (List.mem_append_left _ member)

theorem sound_initial : initial.Sound where
  elements := List.nodup_singleton _
  room := by decide
  relations := List.nodup_nil
  arities := by simp [initial]

theorem nodup_concat_iff {names : List String} {name : String} (distinct : names.Nodup) :
    (names ++ [name]).Nodup ↔ name ∉ names := by
  simp only [List.nodup_append, distinct, List.nodup_singleton, List.mem_singleton, forall_eq,
    true_and]
  exact ⟨fun apart member => apart name member rfl, fun fresh other member same =>
    fresh (same ▸ member)⟩

theorem sound_extend_element (sound : vocabulary.Sound) {name : String}
    (elements : entry.elements = [name]) (relations : entry.relations = []) :
    (vocabulary.extend [entry]).Sound ↔
      name ∉ vocabulary.elements ∧ vocabulary.elements.length < maxElements := by
  have same : vocabulary.extend [entry] =
      { vocabulary with elements := vocabulary.elements ++ [name] } := by
    simp [extend, elements, relations]
  rw [same, ← nodup_concat_iff sound.elements]
  constructor
  · intro extended
    have room := extended.room
    simp only [List.length_append, List.length_singleton] at room
    exact ⟨extended.elements, room⟩
  · rintro ⟨distinct, room⟩
    refine ⟨distinct, ?_, sound.relations, sound.arities⟩
    simp only [List.length_append, List.length_singleton]
    exact room

theorem sound_extend_relation (sound : vocabulary.Sound) {name : String} {arity : Nat}
    (elements : entry.elements = []) (relations : entry.relations = [(name, arity)]) :
    (vocabulary.extend [entry]).Sound ↔
      name ∉ vocabulary.relations.map (·.1) ∧ arity ≠ 0 := by
  have same : vocabulary.extend [entry] =
      { vocabulary with relations := vocabulary.relations ++ [(name, arity)] } := by
    simp [extend, elements, relations]
  rw [same, ← nodup_concat_iff sound.relations]
  constructor
  · intro extended
    exact ⟨by simpa using extended.relations, extended.arities (name, arity) (by simp)⟩
  · rintro ⟨distinct, positive⟩
    refine ⟨sound.elements, sound.room, by simpa using distinct, fun relation member => ?_⟩
    rcases List.mem_append.mp member with old | new
    · exact sound.arities relation old
    · rw [List.mem_singleton.mp new]
      exact positive

theorem extend_silent (elements : entry.elements = []) (relations : entry.relations = []) :
    vocabulary.extend [entry] = vocabulary := by
  simp [extend, elements, relations]

end Vocabulary

namespace Roster

theorem find?_isSome_iff {roster : Roster} {name : String} :
    (roster.find? name).isSome = true ↔ name ∈ roster.names.toList := by
  simp only [Option.isSome_iff_exists, find?_eq_some_iff, Array.mem_toList_iff,
    Array.mem_iff_getElem?]

theorem mem_of_find? {roster : Roster} {name : String} {place : Nat}
    (found : roster.find? name = some place) : name ∈ roster.names.toList :=
  find?_isSome_iff.mp (Option.isSome_of_eq_some found)

theorem find?_eq_none_iff {roster : Roster} {name : String} :
    roster.find? name = none ↔ name ∉ roster.names.toList := by
  rw [← find?_isSome_iff, Bool.not_eq_true, Option.isSome_eq_false_iff, Option.isNone_iff_eq_none]

end Roster

namespace Catalog

variable {catalog : Catalog} {name color : String}

/-- A declared element comes last, with nothing said about it but its color. -/
theorem define_eq_ok {id : ElementId} {after : Catalog}
    (success : catalog.define name color = .ok (id, after)) :
    id = ⟨UInt16.ofNat catalog.size⟩ ∧
      after.names.names = catalog.names.names.push name ∧
      after.drafts = catalog.drafts.push (Draft.ofColor (some color)) ∧
      after.nextDirect = catalog.nextDirect := by
  rw [define] at success
  split at success
  · cases success
  · split at success
    · cases success
      exact ⟨rfl, rfl, rfl, rfl⟩
    · cases success

theorem names_define {id : ElementId} {after : Catalog}
    (success : catalog.define name color = .ok (id, after)) :
    after.names.names.toList = catalog.names.names.toList ++ [name] := by
  rw [(define_eq_ok success).2.1, Array.toList_push]

theorem define_succeeds_iff :
    Succeeds (catalog.define name color) ↔
      name ∉ catalog.names.names.toList ∧ catalog.size < maxElements := by
  rw [define]
  split
  · rename_i found
    exact iff_of_false (not_succeeds_error _) fun both => both.1 (Roster.mem_of_find? found)
  · rename_i fresh
    split
    · rename_i room
      exact iff_of_true (succeeds_ok _) ⟨Roster.find?_eq_none_iff.mp fresh, room⟩
    · rename_i full
      exact iff_of_false (not_succeeds_error _) fun both => full both.2

end Catalog

namespace Registry

variable {registry : Registry} {name : String} {arity : Nat}

theorem names_declare {after : Registry} (success : registry.declare name arity = .ok after) :
    after.names.names.toList = registry.names.names.toList ++ [name] ∧
      after.relations.toList.map (·.arity) =
        registry.relations.toList.map (·.arity) ++ [arity] := by
  rw [declare] at success
  split at success
  · cases success
  · split at success
    · cases success
    · cases success
      simp [Relation.ofArity]

theorem declare_succeeds_iff :
    Succeeds (registry.declare name arity) ↔
      name ∉ registry.names.names.toList ∧ arity ≠ 0 := by
  rw [declare]
  split
  · rename_i empty
    exact iff_of_false (not_succeeds_error _) fun both => both.2 empty
  · rename_i positive
    split
    · rename_i found
      exact iff_of_false (not_succeeds_error _) fun both => both.1 (Roster.mem_of_find? found)
    · rename_i fresh
      exact iff_of_true (succeeds_ok _) ⟨Roster.find?_eq_none_iff.mp fresh, positive⟩

end Registry

namespace Entry

theorem locate_succeeds_iff {α : Type} {entry : Entry} {result : Except Fault α} :
    Succeeds (entry.locate result) ↔ Succeeds result := by
  cases result with
  | ok value => exact iff_of_true (succeeds_ok value) (succeeds_ok value)
  | error fault => exact iff_of_false (not_succeeds_error _) (not_succeeds_error fault)

theorem locate_eq_error {α : Type} {entry : Entry} {result : Except Fault α} {error : CompileError}
    (failed : entry.locate result = .error error) :
    error.path = entry.path ∧ result = .error error.fault := by
  cases result with
  | ok value => cases failed
  | error fault =>
      cases failed
      exact ⟨rfl, rfl⟩

end Entry

theorem unit_then_succeeds_iff {α : Type} {check : Except Fault Unit}
    {next : Unit → Except Fault α} :
    Succeeds (check >>= next) ↔ Succeeds check ∧ Succeeds (next ()) := by
  rw [succeeds_bind_iff]
  exact ⟨fun ⟨value, first, rest⟩ => ⟨⟨value, first⟩, rest⟩,
    fun ⟨⟨value, first⟩, rest⟩ => ⟨value, first, rest⟩⟩

namespace Declared

/-- What is declared is the vocabulary. -/
structure Lists (declared : Declared) (vocabulary : Vocabulary) : Prop where
  /-- The names of the elements. -/
  elements : declared.catalog.names.names.toList = vocabulary.elements
  /-- The names of the relations. -/
  names : declared.registry.names.names.toList = vocabulary.relations.map (·.1)
  /-- The lengths of their tuples. -/
  arities : declared.registry.relations.toList.map (·.arity) = vocabulary.relations.map (·.2)

variable {declared : Declared} {vocabulary : Vocabulary} {entry : Entry} {entries : List Entry}

theorem lists_initial : initial.Lists Vocabulary.initial :=
  ⟨rfl, rfl, rfl⟩

theorem requireTop_succeeds_iff {kind : String} :
    Succeeds (requireTop entry kind) ↔ entry.clauses = [] := by
  rw [requireTop]
  split
  · rename_i top
    exact iff_of_true (succeeds_ok _) (List.isEmpty_iff.mp top)
  · rename_i below
    exact iff_of_false (not_succeeds_error _) fun top => below (List.isEmpty_iff.mpr top)

theorem lists_add (lists : declared.Lists vocabulary) {after : Declared}
    (success : declared.add entry = .ok after) : after.Lists (vocabulary.extend [entry]) := by
  obtain ⟨path, clauses, statement⟩ := entry
  obtain ⟨elements, names, arities⟩ := lists
  simp only [add] at success
  cases statement with
  | title text =>
      obtain ⟨_, -, rest⟩ := bind_eq_ok_iff.mp success
      cases rest
      constructor <;> simpa [Vocabulary.extend, Entry.elements, Entry.relations]
  | element name color =>
      obtain ⟨_, -, rest⟩ := bind_eq_ok_iff.mp success
      obtain ⟨⟨id, catalog⟩, defined, rest⟩ := bind_eq_ok_iff.mp rest
      cases rest
      have listed := Catalog.names_define defined
      rw [elements] at listed
      constructor <;> simpa [Vocabulary.extend, Entry.elements, Entry.relations]
  | relation name arity =>
      obtain ⟨_, -, rest⟩ := bind_eq_ok_iff.mp success
      obtain ⟨registry, declares, rest⟩ := bind_eq_ok_iff.mp rest
      cases rest
      obtain ⟨listed, sized⟩ := Registry.names_declare declares
      rw [names] at listed
      rw [arities] at sized
      constructor <;> simpa [Vocabulary.extend, Entry.elements, Entry.relations]
  | _ =>
      cases success
      constructor <;> simpa [Vocabulary.extend, Entry.elements, Entry.relations]

theorem add_succeeds_iff (lists : declared.Lists vocabulary) (sound : vocabulary.Sound) :
    Succeeds (declared.add entry) ↔
      (entry.declares = true → entry.clauses = []) ∧ (vocabulary.extend [entry]).Sound := by
  obtain ⟨path, clauses, statement⟩ := entry
  simp only [add]
  cases statement with
  | title text =>
      rw [unit_then_succeeds_iff, requireTop_succeeds_iff, Vocabulary.extend_silent rfl rfl]
      exact and_congr (by simp [Entry.declares]) (iff_of_true (succeeds_pure _) sound)
  | element name color =>
      rw [unit_then_succeeds_iff, requireTop_succeeds_iff,
        succeeds_then_iff fun _ => succeeds_pure _, Catalog.define_succeeds_iff,
        Vocabulary.sound_extend_element sound rfl rfl, ← lists.elements, Array.length_toList]
      exact and_congr (by simp [Entry.declares]) Iff.rfl
  | relation name arity =>
      rw [unit_then_succeeds_iff, requireTop_succeeds_iff,
        succeeds_then_iff fun _ => succeeds_pure _, Registry.declare_succeeds_iff,
        Vocabulary.sound_extend_relation sound rfl rfl, ← lists.names]
      exact and_congr (by simp [Entry.declares]) Iff.rfl
  | _ =>
      rw [Vocabulary.extend_silent rfl rfl]
      exact iff_of_true (succeeds_ok _) ⟨by simp [Entry.declares], sound⟩

/-- What statements declare is gathered exactly when the declarations stand at the top and extend
the vocabulary to a sound one. -/
theorem foldlM_add_succeeds_iff (lists : declared.Lists vocabulary) (sound : vocabulary.Sound) :
    Succeeds (entries.foldlM (fun declared entry => entry.locate (declared.add entry)) declared) ↔
      (∀ entry ∈ entries, entry.declares = true → entry.clauses = []) ∧
        (vocabulary.extend entries).Sound := by
  induction entries generalizing declared vocabulary with
  | nil => simpa [Vocabulary.extend, succeeds_pure] using sound
  | cons entry entries ih =>
      rw [List.foldlM_cons, succeeds_bind_iff, List.forall_mem_cons, Vocabulary.extend_cons]
      constructor
      · rintro ⟨after, first, rest⟩
        have added := Entry.locate_eq_ok first
        obtain ⟨top, extended⟩ := (add_succeeds_iff lists sound).mp ⟨after, added⟩
        obtain ⟨later, final⟩ := (ih (lists_add lists added) extended).mp rest
        exact ⟨⟨top, later⟩, final⟩
      · rintro ⟨⟨top, later⟩, final⟩
        obtain ⟨after, added⟩ := (add_succeeds_iff lists sound).mpr ⟨top, final.of_extend⟩
        refine ⟨after, by rw [added]; rfl, ?_⟩
        exact (ih (lists_add lists added) final.of_extend).mpr ⟨later, final⟩

theorem lists_foldlM (lists : declared.Lists vocabulary) {after : Declared}
    (success : entries.foldlM (fun declared entry => entry.locate (declared.add entry)) declared =
      .ok after) : after.Lists (vocabulary.extend entries) := by
  induction entries generalizing declared vocabulary with
  | nil =>
      cases success
      simpa [Vocabulary.extend] using lists
  | cons entry entries ih =>
      rw [List.foldlM_cons] at success
      obtain ⟨between, first, rest⟩ := bind_eq_ok_iff.mp success
      rw [Vocabulary.extend_cons]
      exact ih (lists_add lists (Entry.locate_eq_ok first)) rest

/-- A mod's declarations are gathered exactly when they stand at the top and their vocabulary is
sound. -/
theorem ofEntries_succeeds_iff :
    Succeeds (ofEntries entries) ↔
      (∀ entry ∈ entries, entry.declares = true → entry.clauses = []) ∧
        (Vocabulary.initial.extend entries).Sound :=
  foldlM_add_succeeds_iff lists_initial Vocabulary.sound_initial

/-- What is gathered from the declarations of a mod is their vocabulary. -/
theorem lists_of_gathered (gathered : ofEntries entries = .ok declared) :
    declared.Lists (Vocabulary.initial.extend entries) :=
  lists_foldlM lists_initial gathered

/-! ## Checking -/

variable {clauses : List Clause}

theorem getFitting_succeeds_iff (lists : declared.Lists vocabulary) {name : String} {found : Nat} :
    Succeeds (declared.registry.getFitting name found) ↔ (name, found) ∈ vocabulary.relations := by
  have named (place : Nat) : declared.registry.names.find? name = some place ↔
      (vocabulary.relations[place]?).map (·.1) = some name := by
    rw [Roster.find?_eq_some_iff, ← Array.getElem?_toList, lists.names, List.getElem?_map]
  have sized (place : Nat) : declared.registry.arityAt? place =
      (vocabulary.relations[place]?).map (·.2) := by
    rw [Registry.arityAt?, ← Array.getElem?_toList, ← List.getElem?_map, lists.arities,
      List.getElem?_map]
  constructor
  · rintro ⟨relation, success⟩
    obtain ⟨place, stands, arity⟩ := getFitting_ok success
    rw [named, Option.map_eq_some_iff] at stands
    rw [sized, Option.map_eq_some_iff] at arity
    obtain ⟨⟨_, _⟩, stands, rfl⟩ := stands
    obtain ⟨_, again, rfl⟩ := arity
    rw [stands] at again
    cases again
    exact List.mem_of_getElem? stands
  · intro member
    obtain ⟨place, stands⟩ := List.getElem?_of_mem member
    have found := (named place).mpr (by simp [stands])
    obtain ⟨relation, present, same⟩ :=
      Option.map_eq_some_iff.mp ((sized place).trans (congrArg _ stands))
    have got : declared.registry.get name = .ok relation := by
      simp [Registry.get, found, present]
    rw [Registry.getFitting, succeeds_bind_iff]
    exact ⟨relation, got, relation, by simp [same]⟩

theorem placeOf_succeeds {name : String} {found : Nat}
    (fitting : Succeeds (declared.registry.getFitting name found)) :
    Succeeds (declared.registry.placeOf name) := by
  obtain ⟨relation, success⟩ := fitting
  obtain ⟨place, named, -⟩ := getFitting_ok success
  exact ⟨place, by simp [Registry.placeOf, named]⟩

theorem patternSlot_succeeds_iff (lists : declared.Lists vocabulary) {term : Term} :
    Succeeds (declared.patternSlot term) ↔ vocabulary.Names term := by
  cases term with
  | var name => exact iff_of_true (succeeds_ok _) trivial
  | element name =>
      rw [patternSlot, succeeds_then_iff fun _ => succeeds_pure _, Vocabulary.Names,
        ← lists.elements, ← Roster.find?_isSome_iff, Catalog.idOf]
      cases declared.catalog.names.find? name with
      | none => simp [not_succeeds_error]
      | some place => simp [succeeds_ok]

theorem slot_succeeds_iff (lists : declared.Lists vocabulary) {term : Term} :
    Succeeds (declared.slot clauses term) ↔ vocabulary.FitsTerm clauses term := by
  cases term with
  | element name =>
      have same : declared.slot clauses (.element name) =
          declared.patternSlot (.element name) := rfl
      rw [same, patternSlot_succeeds_iff lists, Vocabulary.FitsTerm]
      exact (and_iff_left trivial).symm
  | var name =>
      rw [slot]
      split
      · rename_i mentioned
        have bound : ∃ clause ∈ clauses, .var name ∈ clause.terms := by simpa using mentioned
        exact iff_of_true (succeeds_ok _) ⟨trivial, bound⟩
      · rename_i unmentioned
        refine iff_of_false (not_succeeds_error _) fun fits => unmentioned ?_
        simpa [Bound] using fits.2

theorem pattern_succeeds_iff (lists : declared.Lists vocabulary) {clause : Clause} :
    Succeeds (declared.pattern clause) ↔ vocabulary.FitsClause clause := by
  rw [pattern, succeeds_bind_iff, Vocabulary.FitsClause, ← getFitting_succeeds_iff lists]
  simp only [← patternSlot_succeeds_iff lists, ← succeeds_mapM_iff]
  constructor
  · rintro ⟨relation, fitting, rest⟩
    obtain ⟨place, -, rest⟩ := succeeds_bind_iff.mp rest
    obtain ⟨slots, resolved, -⟩ := succeeds_bind_iff.mp rest
    exact ⟨⟨relation, fitting⟩, slots, resolved⟩
  · rintro ⟨⟨relation, fitting⟩, slots, resolved⟩
    obtain ⟨place, placed⟩ := placeOf_succeeds ⟨relation, fitting⟩
    refine ⟨relation, fitting, succeeds_bind_iff.mpr ⟨place, placed, ?_⟩⟩
    exact succeeds_bind_iff.mpr ⟨slots, resolved, succeeds_pure _⟩

theorem checkProbability_succeeds_iff {probability : Single} :
    Succeeds (checkProbability probability) ↔ Possible probability := by
  rw [checkProbability, Possible, ← Bool.and_eq_true]
  split
  · rename_i possible
    exact iff_of_true (succeeds_ok _) possible
  · rename_i impossible
    exact iff_of_false (not_succeeds_error _) impossible

theorem checkReactant_succeeds_iff {term : Term} :
    Succeeds (checkReactant term) ↔ term ≠ .element emptyName := by
  rw [checkReactant]
  split
  · rename_i same
    exact iff_of_false (not_succeeds_error _) fun different => different same
  · rename_i different
    exact iff_of_true (succeeds_ok _) different

theorem slot_then_succeeds_iff (lists : declared.Lists vocabulary) {α : Type} {term : Term}
    {next : Slot → Except Fault α} {P : Prop} (later : ∀ slot, Succeeds (next slot) ↔ P) :
    Succeeds (declared.slot clauses term >>= next) ↔ vocabulary.FitsTerm clauses term ∧ P := by
  rw [succeeds_bind_iff, ← slot_succeeds_iff lists]
  constructor
  · rintro ⟨slot, resolved, rest⟩
    exact ⟨⟨slot, resolved⟩, (later slot).mp rest⟩
  · rintro ⟨⟨slot, resolved⟩, rest⟩
    exact ⟨slot, resolved, (later slot).mpr rest⟩

theorem last_slot_succeeds_iff (lists : declared.Lists vocabulary) {α : Type} {term : Term}
    {result : Slot → α} :
    Succeeds (declared.slot clauses term >>= fun slot => pure (result slot)) ↔
      vocabulary.FitsTerm clauses term :=
  (succeeds_then_iff fun _ => succeeds_pure _).trans (slot_succeeds_iff lists)

theorem member_succeeds_iff (lists : declared.Lists vocabulary) {relation : String}
    {terms : List Term} :
    Succeeds (declared.action? clauses (.member relation terms)) ↔
      ((relation, terms.length) ∈ vocabulary.relations ∧ terms ≠ []) ∧
        ∀ term ∈ terms, vocabulary.FitsTerm clauses term := by
  rw [action?, succeeds_bind_iff, ← getFitting_succeeds_iff lists]
  simp only [← slot_succeeds_iff lists, ← succeeds_mapM_iff]
  constructor
  · rintro ⟨_, fitting, rest⟩
    obtain ⟨place, -, rest⟩ := succeeds_bind_iff.mp rest
    obtain ⟨slots, resolved, last⟩ := succeeds_bind_iff.mp rest
    refine ⟨⟨⟨_, fitting⟩, ?_⟩, slots, resolved⟩
    rintro rfl
    cases resolved
    exact not_succeeds_error _ last
  · rintro ⟨⟨⟨_, fitting⟩, filled⟩, slots, resolved⟩
    obtain ⟨place, placed⟩ := placeOf_succeeds ⟨_, fitting⟩
    refine ⟨_, fitting, succeeds_bind_iff.mpr ⟨place, placed, ?_⟩⟩
    refine succeeds_bind_iff.mpr ⟨slots, resolved, ?_⟩
    cases slots with
    | nil => exact absurd (List.forall₂_nil_right_iff.mp (mapM_eq_ok_iff.mp resolved)) filled
    | cons subject args => exact succeeds_ok _

theorem action?_succeeds_iff (lists : declared.Lists vocabulary) {statement : Statement} :
    Succeeds (declared.action? clauses statement) ↔
      vocabulary.FitsStatement statement ∧
        ∀ term ∈ statement.terms, vocabulary.FitsTerm clauses term := by
  cases statement with
  | title _ | element _ _ | relation _ _ =>
      exact iff_of_true (succeeds_ok _) ⟨trivial, by simp [Statement.terms]⟩
  | block own body =>
      rw [action?, succeeds_then_iff fun _ => succeeds_pure _, succeeds_mapM_iff]
      simp only [pattern_succeeds_iff lists, Statement.terms, List.not_mem_nil, false_implies,
        implies_true, and_true]
      rfl
  | member relation terms => exact member_succeeds_iff lists
  | property key subject value =>
      rw [action?]
      split
      · rename_i accepted
        rw [last_slot_succeeds_iff lists]
        simp [Vocabulary.FitsStatement, Statement.terms, accepted]
      · rename_i refused
        exact iff_of_false (not_succeeds_error _) fun fits => refused fits.1
  | tag subject text | name subject text | description subject text =>
      rw [action?, last_slot_succeeds_iff lists]
      simp [Vocabulary.FitsStatement, Statement.terms]
  | reaction probability left right outLeft outRight =>
      rw [action?, unit_then_succeeds_iff, unit_then_succeeds_iff, checkProbability_succeeds_iff,
        checkReactant_succeeds_iff,
        slot_then_succeeds_iff lists fun _ => slot_then_succeeds_iff lists fun _ =>
          slot_then_succeeds_iff lists fun _ => last_slot_succeeds_iff lists]
      simp [Vocabulary.FitsStatement, Statement.terms, and_assoc]
  | transition probability source target =>
      rw [action?, unit_then_succeeds_iff, unit_then_succeeds_iff, checkProbability_succeeds_iff,
        checkReactant_succeeds_iff,
        slot_then_succeeds_iff lists fun _ => last_slot_succeeds_iff lists]
      simp [Vocabulary.FitsStatement, Statement.terms, and_assoc]

theorem directive?_succeeds_iff (lists : declared.Lists vocabulary) {ordinal : Nat} :
    Succeeds (declared.directive? entry ordinal) ↔ vocabulary.FitsEntry entry := by
  rw [directive?, succeeds_bind_iff, Vocabulary.FitsEntry, ← action?_succeeds_iff lists]
  simp only [← pattern_succeeds_iff lists, ← succeeds_mapM_iff]
  constructor
  · rintro ⟨patterns, resolved, rest⟩
    obtain ⟨action, checked, -⟩ := succeeds_bind_iff.mp rest
    exact ⟨⟨patterns, resolved⟩, action, checked⟩
  · rintro ⟨⟨patterns, resolved⟩, action, checked⟩
    refine ⟨patterns, resolved, succeeds_bind_iff.mpr ⟨action, checked, ?_⟩⟩
    cases action <;> exact succeeds_ok _

/-- The statements of a mod pass their checks exactly when each of them fits. -/
theorem directives_succeeds_iff (lists : declared.Lists vocabulary) :
    Succeeds (declared.directives entries) ↔ ∀ entry ∈ entries, vocabulary.FitsEntry entry := by
  rw [directives, succeeds_then_iff fun _ => succeeds_pure _, succeeds_mapM_iff]
  constructor
  · intro located entry member
    obtain ⟨ordinal, found⟩ := List.getElem?_of_mem member
    have success := located (entry, ordinal) (List.mk_mem_zipIdx_iff_getElem?.mpr found)
    exact (directive?_succeeds_iff lists).mp (Entry.locate_succeeds_iff.mp success)
  · rintro fits ⟨entry, ordinal⟩ member
    refine Entry.locate_succeeds_iff.mpr ((directive?_succeeds_iff lists).mpr ?_)
    exact fits _ (List.fst_mem_of_mem_zipIdx member)

end Declared
end FallingSand
