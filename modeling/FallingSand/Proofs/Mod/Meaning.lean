import FallingSand.Proofs.Mod.Rules

/-!
# What a mod says, by names

The memberships that follow from the statements of a mod can be told without identifiers: a tuple of
names follows from a membership statement if the tuples of its clauses do, for some way to give each
variable a name.  The closed registry of a checked mod holds exactly these tuples.
-/

namespace FallingSand

/-- The name that a term gives, once every variable has one. -/
def Term.read (names : String → String) : Term → String
  | .element name => name
  | .var name => names name

/-- The tuple of names follows from the membership statements among the entries. -/
inductive Follows (entries : List Entry) : String → List String → Prop where
  /-- It does if the tuples of all enclosing clauses do. -/
  | member {entry : Entry} {relation : String} {terms : List Term} {names : String → String}
      (listed : entry ∈ entries) (statement : entry.statement = .member relation terms)
      (clauses : ∀ clause ∈ entry.clauses,
        Follows entries clause.relation (clause.terms.map (Term.read names))) :
      Follows entries relation (terms.map (Term.read names))

theorem map_eq_map_of_forall₂ {α β γ : Type} {R : α → β → Prop} {f : α → γ} {g : β → γ}
    {items : List α} {others : List β} (related : List.Forall₂ R items others)
    (agree : ∀ item other, R item other → f item = g other) : items.map f = others.map g := by
  induction related with
  | nil => rfl
  | cons first _ induction => rw [List.map_cons, List.map_cons, agree _ _ first, induction]

namespace Declared

variable {declared : Declared} {directives : List Directive} {entries : List Entry}

/-! ## Names and identifiers -/

/-- The name of an element. -/
def nameOf (declared : Declared) (id : ElementId) : String :=
  declared.catalog.names.names[id.toNat]?.getD emptyName

/-- The element of a name, `Empty` for any that is not declared. -/
def identify (declared : Declared) (names : String → String) : Assignment :=
  fun name => ((declared.catalog.names.find? (names name)).map fun place =>
    ⟨UInt16.ofNat place⟩).getD default

theorem toNat_of_find? {name : String} {place : Nat}
    (found : declared.catalog.names.find? name = some place) :
    (⟨UInt16.ofNat place⟩ : ElementId).toNat = place := by
  have inside : place < 65536 :=
    Nat.lt_of_lt_of_le (Roster.find?_lt found) declared.catalog.size_le
  exact UInt16.toNat_ofNat_of_lt' inside

theorem nameOf_of_find? {name : String} {place : Nat}
    (found : declared.catalog.names.find? name = some place) :
    declared.nameOf ⟨UInt16.ofNat place⟩ = name := by
  rw [nameOf, toNat_of_find? found, Roster.find?_eq_some_iff.mp found]
  rfl

theorem find?_nameOf {id : ElementId} (inside : id.toNat < declared.catalog.size) :
    declared.catalog.names.find? (declared.nameOf id) = some id.toNat := by
  rw [Roster.find?_eq_some_iff, nameOf, Array.getElem?_eq_getElem inside]
  rfl

/-- Elements keep their names. -/
theorem nameOf_ruleSet {id : ElementId} (inside : id.toNat < declared.catalog.size) :
    (declared.ruleSet directives).elements.nameOf id = declared.nameOf id := by
  let catalog := (declared.consequences directives).foldl Consequence.addTo declared.catalog
  have names : catalog.names = declared.catalog.names :=
    Consequence.names_foldl_addTo declared.catalog (declared.consequences directives)
  have listed : id.toNat < (declared.ruleSet directives).elements.entries.size := by
    rw [← ElementTable.size, size_ruleSet]
    exact inside
  have stands : (declared.ruleSet directives).elements.entries[id.toNat]?.map (·.name) =
      declared.catalog.names.names[id.toNat]? :=
    (Catalog.getElem?_resolveAll _ _).trans (by rw [names])
  rw [Array.getElem?_eq_getElem listed, Option.map_some] at stands
  rw [nameOf, ← stands, ElementTable.nameOf, ElementTable.get, dif_pos listed, Option.getD_some]

/-- A declared element with the name of a term is the one that its slot stands for. -/
theorem value_identify {term : Term} {slot : Slot} {names : String → String} {id : ElementId}
    (resolves : declared.Resolves term slot) (inside : id.toNat < declared.catalog.size)
    (same : declared.nameOf id = term.read names) :
    slot.value (declared.identify names) = id := by
  have found := find?_nameOf inside
  rw [same] at found
  cases term with
  | element name =>
      obtain ⟨place, stands, rfl⟩ := resolves_element resolves
      rw [Term.read, stands] at found
      obtain rfl := Option.some.inj found
      simp [Slot.value, ElementId.toNat]
  | var name =>
      obtain rfl := resolves_var.mp resolves
      rw [Term.read] at found
      simp [Slot.value, identify, found, ElementId.toNat]

theorem nameOf_value {term : Term} {slot : Slot} (resolves : declared.Resolves term slot)
    (assignment : Assignment) :
    declared.nameOf (slot.value assignment) =
      term.read fun name => declared.nameOf (assignment name) := by
  cases term with
  | element name =>
      obtain ⟨place, stands, rfl⟩ := resolves_element resolves
      exact nameOf_of_find? stands
  | var name =>
      obtain rfl := resolves_var.mp resolves
      rfl

theorem map_nameOf_value {terms : List Term} {slots : List Slot}
    (resolves : List.Forall₂ declared.Resolves terms slots) (assignment : Assignment) :
    (slots.map (Slot.value assignment)).map declared.nameOf =
      terms.map (Term.read fun name => declared.nameOf (assignment name)) := by
  rw [List.map_map]
  exact (map_eq_map_of_forall₂ resolves fun _ _ resolves =>
    (nameOf_value resolves assignment).symm).symm

theorem map_value_identify {terms : List Term} {slots : List Slot} {names : String → String}
    {tuple : List ElementId} (resolves : List.Forall₂ declared.Resolves terms slots)
    (inside : ∀ id ∈ tuple, id.toNat < declared.catalog.size)
    (same : tuple.map declared.nameOf = terms.map (Term.read names)) :
    slots.map (Slot.value (declared.identify names)) = tuple := by
  induction resolves generalizing tuple with
  | nil => exact (List.map_eq_nil_iff.mp same).symm
  | cons first _ induction =>
      cases tuple with
      | nil => cases same
      | cons id tuple =>
          obtain ⟨here, later⟩ := List.forall_mem_cons.mp inside
          simp only [List.map_cons, List.cons.injEq] at same ⊢
          exact ⟨value_identify first here same.1, induction later same.2⟩

/-! ## What follows -/

theorem exists_slots (checked : declared.directives entries = .ok directives) {entry : Entry}
    (listed : entry ∈ entries) {relation : String} {terms : List Term}
    (statement : entry.statement = .member relation terms) :
    ∃ directive slots, declared.Directs entry directive ∧
      List.Forall₂ (declared.ResolvesUnder entry.clauses) terms slots := by
  obtain ⟨directive, -, directs⟩ := exists_directive checked listed (by rw [statement]; rfl)
  obtain ⟨_, subject, args, -, -, resolves⟩ := exists_member directs statement
  exact ⟨directive, subject :: args, directs, resolves⟩

/-- What follows has all tuples that the membership statements ask for. -/
theorem closed_follows (checked : declared.directives entries = .ok directives) :
    declared.Closed entries
      fun relation => {tuple | Follows entries relation (tuple.map declared.nameOf)} where
  facts entry listed relation terms statement top := by
    obtain ⟨_, slots, -, resolves⟩ := exists_slots checked listed statement
    rw [top] at resolves
    refine ⟨_, mapM_literal?_of_resolves (fun _ => default) resolves, ?_⟩
    rw [Set.mem_ofPred_eq, map_nameOf_value (resolves.imp fun _ _ both => both.1)]
    exact .member listed statement (by simp [top])
  derived entry listed relation terms statement _ assignment held := by
    obtain ⟨directive, slots, directs, resolves⟩ := exists_slots checked listed statement
    have resolves := resolves.imp fun _ _ both => both.1
    rw [holds_iff_of_resolves resolves, Set.mem_ofPred_eq, map_nameOf_value resolves]
    refine .member listed statement fun clause inside => ?_
    obtain ⟨pattern, -, comes⟩ := exists_of_mem_left directs.patterns inside
    have follows := held clause inside
    rw [holds_iff_of_resolves comes.slots, Set.mem_ofPred_eq,
      map_nameOf_value comes.slots] at follows
    exact follows

/-- The clauses are met by tuples of the closed registry, by their names. -/
def MetBy (declared : Declared) (directives : List Directive) (clauses : List Clause)
    (names : String → String) : Prop :=
  ∀ clause ∈ clauses, ∃ tuple ∈ (declared.closed directives).tuplesOf clause.relation,
    tuple.map declared.nameOf = clause.terms.map (Term.read names)

section Closed

variable (gathered : Declared.ofEntries entries = .ok declared)
  (checked : declared.directives entries = .ok directives)

include gathered checked

theorem lt_of_held {relation : String} {tuple : List ElementId}
    (held : tuple ∈ (declared.closed directives).tuplesOf relation) :
    ∀ id ∈ tuple, id.toNat < declared.catalog.size := by
  obtain ⟨place, -, stands⟩ := Registry.mem_tuplesOf.mp held
  exact ((within_closed gathered checked).tuples place tuple stands).2

/-- Names that meet the clauses of an entry are those of the elements that they identify. -/
theorem read_identify {entry : Entry} {names : String → String}
    (met : declared.MetBy directives entry.clauses names) {term : Term} {slot : Slot}
    (resolves : declared.ResolvesUnder entry.clauses term slot) :
    declared.nameOf (slot.value (declared.identify names)) = term.read names := by
  obtain ⟨resolves, bound⟩ := resolves
  rw [nameOf_value resolves]
  cases term with
  | element name => rfl
  | var name =>
      obtain ⟨clause, listed, mentioned⟩ := bound name rfl
      obtain ⟨tuple, held, same⟩ := met clause listed
      have among : names name ∈ tuple.map declared.nameOf := by
        rw [same]
        exact List.mem_map.mpr ⟨.var name, mentioned, rfl⟩
      obtain ⟨id, inside, called⟩ := List.mem_map.mp among
      have same : slot.value (declared.identify names) = id :=
        value_identify resolves (lt_of_held gathered checked held id inside) called
      obtain rfl := resolves_var.mp resolves
      rw [Slot.value] at same
      rw [Term.read, same, called, Term.read]

theorem holds_identify {entry : Entry} {directive : Directive}
    (directs : declared.Directs entry directive) {names : String → String}
    (met : declared.MetBy directives entry.clauses names) :
    ∀ clause ∈ entry.clauses, declared.catalog.Holds (declared.closed directives).tuplesOf
      (declared.identify names) clause.relation clause.terms := by
  intro clause listed
  obtain ⟨pattern, -, comes⟩ := exists_of_mem_left directs.patterns listed
  obtain ⟨tuple, held, same⟩ := met clause listed
  rw [holds_iff_of_resolves comes.slots,
    map_value_identify comes.slots (lt_of_held gathered checked held) same]
  exact held

theorem held_of_follows {relation : String} {names : List String}
    (follows : Follows entries relation names) :
    ∃ tuple ∈ (declared.closed directives).tuplesOf relation,
      tuple.map declared.nameOf = names := by
  have closed := closed_tuplesOf_close checked (tuplesAt_of_gathered gathered)
  induction follows with
  | @member entry relation terms names listed statement _ induction =>
      have met : declared.MetBy directives entry.clauses names := induction
      obtain ⟨directive, slots, directs, resolves⟩ := exists_slots checked listed statement
      refine ⟨slots.map (Slot.value (declared.identify names)), ?_, ?_⟩
      · by_cases top : entry.clauses = []
        · obtain ⟨tuple, written, held⟩ := closed.facts entry listed relation terms statement top
          rw [top] at resolves
          rw [mapM_literal?_of_resolves (declared.identify names) resolves] at written
          exact Option.some.inj written ▸ held
        · have holds := closed.derived entry listed relation terms statement top
            (declared.identify names) (holds_identify gathered checked directs met)
          exact (holds_iff_of_resolves (resolves.imp fun _ _ both => both.1)).mp holds
      · rw [List.map_map]
        exact (map_eq_map_of_forall₂ resolves fun _ _ resolves =>
          (read_identify gathered checked met resolves).symm).symm

/-- What follows are the tuples that the closed registry holds. -/
theorem follows_iff {relation : String} {names : List String} :
    Follows entries relation names ↔
      ∃ tuple ∈ (declared.closed directives).tuplesOf relation,
        tuple.map declared.nameOf = names := by
  constructor
  · exact held_of_follows gathered checked
  · rintro ⟨tuple, held, rfl⟩
    exact tuplesOf_close_subset checked (tuplesAt_of_gathered gathered)
      (closed_follows checked) relation held

theorem metBy_iff {clauses : List Clause} {names : String → String} :
    declared.MetBy directives clauses names ↔
      ∀ clause ∈ clauses, Follows entries clause.relation (clause.terms.map (Term.read names)) :=
  forall₂_congr fun _ _ => (follows_iff gathered checked).symm

/-! ## Rows and names -/

variable {entry : Entry} {directive : Directive} (directs : declared.Directs entry directive)

include directs

theorem fits_closed : ∀ pattern ∈ directive.patterns, (declared.closed directives).Fits pattern :=
  Directive.fits_of_within (wellFormed_of_directs directs) (fun _ => subset_rfl)
    (within_closed gathered checked)

/-- The names that a row gives the variables meet the clauses. -/
theorem metBy_of_mem_rows {row : Row}
    (listed : row ∈ (declared.closed directives).rows directive.patterns) :
    declared.MetBy directives entry.clauses fun name => declared.nameOf (row.solution name) := by
  intro clause inside
  obtain ⟨pattern, picked, comes⟩ := exists_of_mem_left directs.patterns inside
  have held := (Registry.held_of_mem_rows (fits_closed gathered checked directs) listed).1
  refine ⟨pattern.tuple row.solution, ?_, map_nameOf_value comes.slots row.solution⟩
  exact Registry.mem_tuplesOf.mpr
    ⟨pattern.relation, names_closed ▸ comes.relation, held pattern picked⟩

/-- Names that meet the clauses are those that a row gives. -/
theorem exists_row_of_metBy {names : String → String}
    (met : declared.MetBy directives entry.clauses names) :
    ∃ row ∈ (declared.closed directives).rows directive.patterns,
      row.Admits (declared.identify names) := by
  refine Registry.exists_row_of_held (fits_closed gathered checked directs) ?_
  intro pattern picked
  obtain ⟨clause, inside, comes⟩ := exists_of_mem_right directs.patterns picked
  have holds := holds_identify gathered checked directs met clause inside
  obtain ⟨place, found, stands⟩ :=
    Registry.mem_tuplesOf.mp ((holds_iff_of_resolves comes.slots).mp holds)
  rw [names_closed, comes.relation] at found
  rw [Option.some.inj found]
  exact stands

end Closed

end Declared
end FallingSand
