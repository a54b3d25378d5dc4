import FallingSand.Proofs.Mod.Compiled

/-!
# The instances of clauses

A rule statement stands for one rule for every way to pick a tuple for each of its enclosing clauses
in which literals match and the occurrences of a variable agree.  The rows that matching finds are
these ways, one by one and in order, and a row gives every term the element that it has met.
-/

namespace FallingSand

/-! ## Picking tuples -/

namespace Registry

/-- The tuples of the relation of a name, in the order of discovery. -/
def tuplesNamed (registry : Registry) (name : String) : List (List ElementId) :=
  match registry.get name with
  | .ok relation => relation.members.toList.map Membership.tuple
  | .error _ => []

/-- Every way to pick a tuple for each clause, the first clause varying slowest. -/
def choices (registry : Registry) : List Clause → List (List (List ElementId))
  | [] => [[]]
  | clause :: clauses =>
      (registry.tuplesNamed clause.relation).flatMap fun tuple =>
        (registry.choices clauses).map (tuple :: ·)

end Registry

/-- Every term of the clauses with the element at its place in the tuple picked. -/
def occurrences (clauses : List Clause) (choice : List (List ElementId)) :
    List (Term × ElementId) :=
  (clauses.zip choice).flatMap fun picked => picked.1.terms.zip picked.2

namespace ElementTable

/-- A literal stands where its own element does. -/
def Agrees (table : ElementTable) : Term × ElementId → Prop
  | (.element name, id) => table.idOf? name = some id
  | (.var _, _) => True

instance (table : ElementTable) : DecidablePred table.Agrees
  | (.element name, id) => inferInstanceAs (Decidable (table.idOf? name = some id))
  | (.var _, _) => isTrue trivial

/-- Literals match, and all occurrences of a variable agree. -/
def Consistent (table : ElementTable) (met : List (Term × ElementId)) : Prop :=
  (∀ occurrence ∈ met, table.Agrees occurrence) ∧
    ∀ first ∈ met, ∀ second ∈ met, first.1 = second.1 → first.2 = second.2

instance (table : ElementTable) : DecidablePred table.Consistent :=
  fun _ => inferInstanceAs (Decidable (_ ∧ _))

/-- The element that a term stands for, given what its variables have met. -/
def meaning? (table : ElementTable) (met : List (Term × ElementId)) : Term → Option ElementId
  | .element name => table.idOf? name
  | .var name => met.lookup (.var name)

end ElementTable

namespace RuleSet

/-- The consistent ways to pick a tuple for each clause, in order, each as what the terms meet. -/
def instances (rules : RuleSet) (clauses : List Clause) : List (List (Term × ElementId)) :=
  ((rules.registry.choices clauses).map (occurrences clauses)).filter fun met =>
    decide (rules.elements.Consistent met)

/-- The reactions that an entry stands for, none of them missing an element. -/
def reactionsOf (rules : RuleSet) (entry : Entry) (ordinal : Nat) : List (Option Reaction) :=
  match entry.statement with
  | .reaction probability left right outLeft outRight =>
      (rules.instances entry.clauses).zipIdx.map fun (met, place) => do
        let left ← rules.elements.meaning? met left
        let right ← rules.elements.meaning? met right
        let outLeft ← rules.elements.meaning? met outLeft
        let outRight ← rules.elements.meaning? met outRight
        return { probability, left, right, outLeft, outRight, source := ⟨ordinal, place⟩ }
  | _ => []

/-- The transitions that an entry stands for, none of them missing an element. -/
def transitionsOf (rules : RuleSet) (entry : Entry) (ordinal : Nat) : List (Option Transition) :=
  match entry.statement with
  | .transition probability source target =>
      (rules.instances entry.clauses).zipIdx.map fun (met, place) => do
        let element ← rules.elements.meaning? met source
        let target ← rules.elements.meaning? met target
        return { probability, element, target, source := ⟨ordinal, place⟩ }
  | _ => []

end RuleSet

/-! ## Choices and combinations -/

section Choices

variable {declared : Declared} {registry : Registry} {clauses : List Clause}
  {patterns : List Pattern} {combination : List Membership} {assignment : Assignment}

theorem tuplesNamed_eq (names : registry.names = declared.registry.names) {name : String}
    {place : Nat} (found : declared.registry.names.find? name = some place) :
    registry.tuplesNamed name = registry.tuplesAt place := by
  rw [Registry.tuplesNamed, Registry.get, names, found, Registry.tuplesAt, Registry.membersAt]
  cases stands : registry.relations[place]? <;> simp [stands]

theorem choices_eq (names : registry.names = declared.registry.names)
    (same : List.Forall₂ declared.Matches clauses patterns) :
    registry.choices clauses =
      (registry.combinations patterns).map (List.map Membership.tuple) := by
  induction same with
  | nil => rfl
  | cons first _ ih =>
      rw [Registry.choices, Registry.combinations, ih, tuplesNamed_eq names first.relation,
        Registry.tuplesAt, List.flatMap_map, List.map_flatMap]
      simp [Function.comp_def]

theorem map_value_eq_iff {terms : List Term} {slots : List Slot}
    (resolves : List.Forall₂ declared.Resolves terms slots) {tuple : List ElementId}
    (fits : slots.length = tuple.length) :
    slots.map (Slot.value assignment) = tuple ↔
      ∀ occurrence ∈ terms.zip tuple,
        declared.catalog.value? assignment occurrence.1 = some occurrence.2 := by
  induction resolves generalizing tuple with
  | nil => simpa [eq_comm] using fits
  | cons resolves _ ih =>
      cases tuple with
      | nil => cases fits
      | cons id ids =>
          rw [List.zip_cons_cons, List.forall_mem_cons,
            Declared.value?_of_resolves resolves,
            ← ih (Nat.succ.inj fits), List.map_cons, List.cons.injEq, Option.some.injEq]

theorem meets_iff (same : List.Forall₂ declared.Matches clauses patterns)
    (fits : List.Forall₂ Row.Fitting patterns combination) :
    List.Forall₂ (Row.Meets assignment) patterns combination ↔
      ∀ occurrence ∈ occurrences clauses (combination.map Membership.tuple),
        declared.catalog.value? assignment occurrence.1 = some occurrence.2 := by
  induction same generalizing combination with
  | nil =>
      cases fits
      simp [occurrences]
  | cons first _ ih =>
      obtain _ | ⟨fit, fits⟩ := fits
      rw [List.forall₂_cons, ih fits, Row.Meets, Pattern.tuple, map_value_eq_iff first.slots fit]
      simp only [occurrences, List.map_cons, List.zip_cons_cons, List.flatMap_cons,
        List.mem_append, or_imp, forall_and]

theorem exists_occurrence (same : List.Forall₂ declared.Matches clauses patterns)
    (fits : List.Forall₂ Row.Fitting patterns combination) {clause : Clause}
    (listed : clause ∈ clauses) {term : Term} (mentioned : term ∈ clause.terms) :
    ∃ id, (term, id) ∈ occurrences clauses (combination.map Membership.tuple) := by
  induction same generalizing combination with
  | nil => cases listed
  | cons first _ ih =>
      cases fits with
      | @cons _ membership _ _ fit fits =>
          simp only [occurrences, List.map_cons, List.zip_cons_cons, List.flatMap_cons,
            List.mem_append]
          rcases List.mem_cons.mp listed with rfl | later
          · have long : clause.terms.length = membership.tuple.length :=
              first.slots.length_eq.trans fit
            obtain ⟨place, inside, rfl⟩ := List.mem_iff_getElem.mp mentioned
            have there : place < membership.tuple.length := long ▸ inside
            refine ⟨membership.tuple[place], Or.inl (List.mem_iff_getElem.mpr ?_)⟩
            exact ⟨place, by simp [inside, there], by simp⟩
          · obtain ⟨id, met⟩ := ih fits later
            exact ⟨id, Or.inr met⟩

/-! ## Consistent choices -/

variable {table : ElementTable} {met : List (Term × ElementId)}

theorem exists_lookup {term : Term} {id : ElementId} (occurs : (term, id) ∈ met) :
    ∃ first, met.lookup term = some first ∧ (term, first) ∈ met := by
  induction met with
  | nil => cases occurs
  | cons head met ih =>
      obtain ⟨other, first⟩ := head
      by_cases same : term = other
      · subst same
        exact ⟨first, by simp, by simp⟩
      · have later : (term, id) ∈ met := by simpa [same] using occurs
        obtain ⟨found, looked, stands⟩ := ih later
        have differs : (term == other) = false := by simp [same]
        exact ⟨found, by rw [List.lookup_cons, differs, looked], List.mem_cons_of_mem _ stands⟩

theorem meaning?_eq
    (known : ∀ name, table.idOf? name = declared.catalog.value? assignment (.element name))
    (explained : ∀ occurrence ∈ met,
      declared.catalog.value? assignment occurrence.1 = some occurrence.2)
    {term : Term} (bound : ∀ name, term = .var name → ∃ id, (term, id) ∈ met) :
    table.meaning? met term = declared.catalog.value? assignment term := by
  cases term with
  | element name => exact known name
  | var name =>
      obtain ⟨id, occurs⟩ := bound name rfl
      obtain ⟨first, looked, stands⟩ := exists_lookup occurs
      rw [ElementTable.meaning?, looked, explained _ stands]

/-- A choice is consistent exactly when an assignment explains everything that the terms meet. -/
theorem consistent_iff
    (known : ∀ assignment name,
      table.idOf? name = declared.catalog.value? assignment (.element name)) :
    table.Consistent met ↔ ∃ assignment, ∀ occurrence ∈ met,
      declared.catalog.value? assignment occurrence.1 = some occurrence.2 := by
  constructor
  · rintro ⟨agrees, same⟩
    refine ⟨fun name => (met.lookup (.var name)).getD default, ?_⟩
    rintro ⟨term, id⟩ occurs
    cases term with
    | element name => rw [← known]; exact agrees _ occurs
    | var name =>
        obtain ⟨first, looked, stands⟩ := exists_lookup occurs
        have equal : first = id := same _ stands _ occurs rfl
        simp [Catalog.value?, looked, equal]
  · rintro ⟨assignment, explained⟩
    constructor
    · rintro ⟨term, id⟩ occurs
      cases term with
      | element name => exact (known assignment name).trans (explained _ occurs)
      | var name => trivial
    · rintro ⟨term, first⟩ one ⟨_, second⟩ other rfl
      exact Option.some.inj ((explained _ one).symm.trans (explained _ other))

/-! ## Rows and instances -/

/-- The row and what the terms meet give every term of a statement under the clauses the same
element. -/
def Row.Reads (declared : Declared) (table : ElementTable) (clauses : List Clause) (row : Row)
    (met : List (Term × ElementId)) : Prop :=
  ∀ term slot, declared.ResolvesUnder clauses term slot →
    ∃ id, row.element? slot = some id ∧ table.meaning? met term = some id

theorem forall₂_filterMap_filter {α β γ : Type} {R : β → γ → Prop} {f : α → Option β} {g : α → γ}
    {p : γ → Bool} {items : List α}
    (agree : ∀ item ∈ items, ((∃ result, f item = some result) ↔ p (g item) = true) ∧
      ∀ result, f item = some result → R result (g item)) :
    List.Forall₂ R (items.filterMap f) ((items.map g).filter p) := by
  induction items with
  | nil => exact .nil
  | cons item items ih =>
      obtain ⟨⟨passes, related⟩, agree⟩ := List.forall_mem_cons.mp agree
      rw [List.filterMap_cons, List.map_cons, List.filter_cons]
      cases found : f item with
      | none =>
          have refused : p (g item) = false := by
            simpa [found] using passes
          simpa [refused] using ih agree
      | some result =>
          rw [if_pos (passes.mp ⟨result, found⟩)]
          exact .cons (related result found) (ih agree)

theorem covers_of_resolvesUnder (same : List.Forall₂ declared.Matches clauses patterns) {row : Row}
    (covered : ∀ slot, (∃ pattern ∈ patterns, slot ∈ pattern.slots) → row.Covers slot)
    {term : Term} {slot : Slot} (resolves : declared.ResolvesUnder clauses term slot) :
    row.Covers slot := by
  obtain ⟨resolves, mentioned⟩ := resolves
  cases term with
  | element name =>
      obtain ⟨place, -, rfl⟩ := Declared.resolves_element resolves
      trivial
  | var name =>
      obtain rfl := Declared.resolves_var.mp resolves
      obtain ⟨clause, inside, mentions⟩ := mentioned name rfl
      obtain ⟨pattern, listed, comes⟩ := exists_of_mem_left same inside
      obtain ⟨slot, filled, equal⟩ := exists_of_mem_left comes.slots mentions
      exact covered _ ⟨pattern, listed, Declared.resolves_var.mp equal ▸ filled⟩

/-- A row found for a combination makes it consistent and reads what its terms meet. -/
theorem reads_of_extendAll? (same : List.Forall₂ declared.Matches clauses patterns)
    (fits : List.Forall₂ Row.Fitting patterns combination)
    (known : ∀ assignment name,
      table.idOf? name = declared.catalog.value? assignment (.element name)) {row : Row}
    (success : Row.empty.extendAll? patterns combination = some row) :
    table.Consistent (occurrences clauses (combination.map Membership.tuple)) ∧
      row.Reads declared table clauses
        (occurrences clauses (combination.map Membership.tuple)) := by
  have meets := ((Row.admits_extendAll? fits success).mp row.admits_solution).2
  have explained := (meets_iff same fits).mp meets
  refine ⟨(consistent_iff known).mpr ⟨row.solution, explained⟩, fun term slot resolves => ?_⟩
  have covered : row.Covers slot := covers_of_resolvesUnder same
    (fun slot inside => (Row.covers_extendAll? fits success).mpr (Or.inr inside)) resolves
  refine ⟨slot.value row.solution, Row.element?_eq_value row.admits_solution covered, ?_⟩
  rw [meaning?_eq (known _) explained, Declared.value?_of_resolves resolves.1]
  intro name variable'
  obtain ⟨clause, inside, mentions⟩ := resolves.2 name variable'
  exact exists_occurrence same fits inside (variable' ▸ mentions)

/-- The rows of the patterns are the instances of the clauses, one by one. -/
theorem forall₂_rows (same : List.Forall₂ declared.Matches clauses patterns)
    (names : registry.names = declared.registry.names)
    (fits : ∀ pattern ∈ patterns, registry.Fits pattern)
    (known : ∀ assignment name,
      table.idOf? name = declared.catalog.value? assignment (.element name)) :
    List.Forall₂ (Row.Reads declared table clauses) (registry.rows patterns)
      (((registry.choices clauses).map (occurrences clauses)).filter fun met =>
        decide (table.Consistent met)) := by
  rw [Registry.rows_eq_combinations, choices_eq names same, List.map_map]
  refine forall₂_filterMap_filter fun combination picked => ?_
  have fit := Registry.fitting_of_mem_combinations fits picked
  rw [decide_eq_true_iff]
  refine ⟨⟨?_, fun consistent => ?_⟩, fun row success =>
    (reads_of_extendAll? same fit known success).2⟩
  · rintro ⟨row, success⟩
    exact (reads_of_extendAll? same fit known success).1
  · -- matching follows any assignment that explains what the terms meet
    obtain ⟨assignment, explained⟩ := (consistent_iff known).mp consistent
    exact Row.extendAll?_of_admits fit Row.admits_empty ((meets_iff same fit).mpr explained)

end Choices

end FallingSand
