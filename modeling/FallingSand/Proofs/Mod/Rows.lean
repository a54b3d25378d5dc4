import FallingSand.Proofs.Mod.Holdings
import Mathlib.Data.List.Forall2

/-!
# Rows as sets of assignments

An assignment gives every variable an element.  A row stands for the assignments that agree with its
bindings: matching one more tuple keeps exactly those that turn the pattern into the tuple, and
fails when there are none.  Hence the rows of a list of patterns are the combinations of
memberships, one for each pattern, that some assignment meets.
-/

namespace FallingSand

/-- An element for every variable. -/
abbrev Assignment := String → ElementId

/-- The element that a slot stands for. -/
def Slot.value (assignment : Assignment) : Slot → ElementId
  | .element id => id
  | .var name => assignment name

/-- The tuple that a pattern stands for. -/
def Pattern.tuple (assignment : Assignment) (pattern : Pattern) : List ElementId :=
  pattern.slots.map (Slot.value assignment)

namespace Row

variable {assignment : Assignment} {origin : Origin}

/-- The assignment agrees with every binding. -/
def Admits (row : Row) (assignment : Assignment) : Prop :=
  ∀ name bound, row.find? name = some bound → assignment name = bound.element

/-- The row knows what the slot stands for. -/
def Covers (row : Row) : Slot → Prop
  | .element _ => True
  | .var name => (row.find? name).isSome = true

/-- The assignment that a row writes down, with `Empty` for all other variables. -/
def solution (row : Row) : Assignment :=
  fun name => ((row.find? name).map (·.element)).getD default

theorem admits_empty : empty.Admits assignment := by
  intro name bound found
  cases found

theorem admits_solution (row : Row) : row.Admits row.solution := by
  intro name bound found
  simp [solution, found]

theorem element?_eq_value {row : Row} (admits : row.Admits assignment) {slot : Slot}
    (covered : row.Covers slot) : row.element? slot = some (slot.value assignment) := by
  cases slot with
  | element id => rfl
  | var name =>
      obtain ⟨bound, found⟩ := Option.isSome_iff_exists.mp covered
      simp [element?, Slot.value, found, admits name bound found]

theorem mapM_element? {row : Row} (admits : row.Admits assignment) {slots : List Slot}
    (covered : ∀ slot ∈ slots, row.Covers slot) :
    slots.mapM row.element? = some (slots.map (Slot.value assignment)) := by
  induction slots with
  | nil => rfl
  | cons slot slots ih =>
      rw [List.forall_mem_cons] at covered
      simp [List.mapM_cons, element?_eq_value admits covered.1, ih covered.2]

/-! ## One binding more -/

theorem find?_bind (row : Row) (bound : Binding) (name : String) :
    Row.find? { row with bindings := row.bindings ++ [bound] } name =
      (row.find? name).or (if bound.name = name then some bound else none) := by
  simp only [find?, List.find?_append, List.find?_singleton, beq_iff_eq]

theorem admits_bind {row : Row} (bound : Binding) (fresh : row.find? bound.name = none) :
    Row.Admits { row with bindings := row.bindings ++ [bound] } assignment ↔
      row.Admits assignment ∧ assignment bound.name = bound.element := by
  constructor
  · intro admits
    refine ⟨fun name other found => admits name other ?_, admits bound.name bound ?_⟩
    · simp [find?_bind, found]
    · simp [find?_bind, fresh]
  · rintro ⟨admits, agrees⟩ name other found
    rw [find?_bind] at found
    cases earlier : row.find? name with
    | some first =>
        have same : first = other := by simpa [earlier] using found
        exact admits name other (same ▸ earlier)
    | none =>
        have last : bound.name = name ∧ bound = other := by simpa [earlier] using found
        rw [← last.1, ← last.2]
        exact agrees

theorem covers_bind {row : Row} {bound : Binding} {slot : Slot} :
    Row.Covers { row with bindings := row.bindings ++ [bound] } slot ↔
      row.Covers slot ∨ slot = .var bound.name := by
  cases slot with
  | element id => simp [Covers]
  | var name =>
      simp only [Covers, find?_bind, Option.isSome_or, Bool.or_eq_true, Slot.var.injEq]
      by_cases same : bound.name = name
      · simp [same]
      · simp [same, Ne.symm same]

/-! ## Matching a tuple -/

/-- What a new binding with the origin of the tuple keeps, matching keeps. -/
theorem matchSlots_induction {P : Row → Prop}
    (kept : ∀ row name id, row.find? name = none → P row →
      P { row with bindings := row.bindings ++ [⟨name, id, origin⟩] })
    {slots : List Slot} {ids : List ElementId} {row matched : Row}
    (success : matchSlots origin slots ids row = some matched) (holds : P row) : P matched := by
  induction slots generalizing ids row with
  | nil =>
      obtain rfl : row = matched := by simpa [matchSlots] using success
      exact holds
  | cons slot slots induction =>
      cases ids with
      | nil =>
          obtain rfl : row = matched := by cases slot <;> simpa [matchSlots] using success
          exact holds
      | cons id ids =>
          cases slot with
          | element expected =>
              rw [matchSlots] at success
              split at success
              · exact induction success holds
              · cases success
          | var name =>
              rw [matchSlots] at success
              split at success
              · split at success
                · exact induction success holds
                · cases success
              · exact induction success (kept row name id ‹_› holds)

/-- Matching keeps the assignments that turn the slots into the elements. -/
theorem admits_matchSlots {slots : List Slot} {ids : List ElementId} {row matched : Row}
    (fits : slots.length = ids.length) (success : matchSlots origin slots ids row = some matched) :
    matched.Admits assignment ↔
      row.Admits assignment ∧ slots.map (Slot.value assignment) = ids := by
  induction slots generalizing ids row with
  | nil =>
      obtain rfl := List.length_eq_zero_iff.mp fits.symm
      obtain rfl : row = matched := by simpa [matchSlots] using success
      simp
  | cons slot slots ih =>
      obtain ⟨id, ids, rfl⟩ := List.exists_cons_of_length_eq_add_one fits.symm
      have shorter : slots.length = ids.length := by simpa using fits
      cases slot with
      | element expected =>
          by_cases same : expected = id
          · rw [matchSlots, if_pos same] at success
            simp [ih shorter success, Slot.value, same]
          · simp [matchSlots, same] at success
      | var name =>
          rw [matchSlots] at success
          cases earlier : row.find? name with
          | some bound =>
              simp only [earlier] at success
              by_cases same : bound.element = id
              · rw [if_pos same] at success
                rw [ih shorter success]
                simp only [List.map_cons, List.cons.injEq, Slot.value]
                constructor
                · rintro ⟨admits, agrees⟩
                  exact ⟨admits, (admits name bound earlier).trans same, agrees⟩
                · rintro ⟨admits, -, agrees⟩
                  exact ⟨admits, agrees⟩
              · simp [same] at success
          | none =>
              simp only [earlier] at success
              rw [ih shorter success, admits_bind _ earlier]
              simp [Slot.value, and_assoc]

/-- Matching does not fail as long as an admitted assignment turns the slots into the elements. -/
theorem matchSlots_of_admits (origin : Origin) (slots : List Slot) {row : Row}
    (admits : row.Admits assignment) :
    ∃ matched, matchSlots origin slots (slots.map (Slot.value assignment)) row = some matched := by
  induction slots generalizing row with
  | nil => exact ⟨row, rfl⟩
  | cons slot slots ih =>
      cases slot with
      | element expected =>
          obtain ⟨matched, success⟩ := ih admits
          exact ⟨matched, by simpa [matchSlots, Slot.value] using success⟩
      | var name =>
          cases earlier : row.find? name with
          | some bound =>
              obtain ⟨matched, success⟩ := ih admits
              have agrees : bound.element = assignment name := (admits name bound earlier).symm
              exact ⟨matched, by simpa [matchSlots, Slot.value, earlier, agrees] using success⟩
          | none =>
              obtain ⟨matched, success⟩ :=
                ih ((admits_bind ⟨name, assignment name, origin⟩ earlier).mpr ⟨admits, rfl⟩)
              exact ⟨matched, by simpa [matchSlots, Slot.value, earlier] using success⟩

theorem covers_matchSlots {slots : List Slot} {ids : List ElementId} {row matched : Row}
    (fits : slots.length = ids.length) (success : matchSlots origin slots ids row = some matched)
    {slot : Slot} : matched.Covers slot ↔ row.Covers slot ∨ slot ∈ slots := by
  induction slots generalizing ids row with
  | nil =>
      obtain rfl := List.length_eq_zero_iff.mp fits.symm
      obtain rfl : row = matched := by simpa [matchSlots] using success
      simp
  | cons first slots ih =>
      obtain ⟨id, ids, rfl⟩ := List.exists_cons_of_length_eq_add_one fits.symm
      have shorter : slots.length = ids.length := by simpa using fits
      rw [List.mem_cons, ← or_assoc]
      cases first with
      | element expected =>
          by_cases same : expected = id
          · rw [matchSlots, if_pos same] at success
            rw [ih shorter success]
            have known : slot = .element expected → row.Covers slot := by
              rintro rfl
              trivial
            tauto
          · simp [matchSlots, same] at success
      | var name =>
          rw [matchSlots] at success
          cases earlier : row.find? name with
          | some bound =>
              simp only [earlier] at success
              by_cases same : bound.element = id
              · rw [if_pos same] at success
                rw [ih shorter success]
                have known : slot = .var name → row.Covers slot := by
                  rintro rfl
                  simp [Covers, earlier]
                tauto
              · simp [same] at success
          | none =>
              simp only [earlier] at success
              rw [ih shorter success, covers_bind]

/-! ## One membership for each pattern -/

/-- Pick one membership for each of some more patterns, if all agree with the row. -/
def extendAll? : Row → List Pattern → List Membership → Option Row
  | row, pattern :: patterns, membership :: combination =>
      (row.extend? pattern membership).bind (extendAll? · patterns combination)
  | row, _, _ => some row

/-- The tuple of the membership has the length that the pattern asks for. -/
def Fitting (pattern : Pattern) (membership : Membership) : Prop :=
  pattern.slots.length = membership.tuple.length

/-- The assignment turns the pattern into the tuple of the membership. -/
def Meets (assignment : Assignment) (pattern : Pattern) (membership : Membership) : Prop :=
  pattern.tuple assignment = membership.tuple

theorem admits_extend? {row extended : Row} {pattern : Pattern} {membership : Membership}
    (fits : Fitting pattern membership) (success : row.extend? pattern membership = some extended) :
    extended.Admits assignment ↔ row.Admits assignment ∧ Meets assignment pattern membership := by
  obtain ⟨matched, found, rfl⟩ := Option.map_eq_some_iff.mp success
  exact (admits_matchSlots fits found : matched.Admits assignment ↔ _)

theorem extend?_of_admits {row : Row} {pattern : Pattern} {membership : Membership}
    (admits : row.Admits assignment) (meets : Meets assignment pattern membership) :
    ∃ extended, row.extend? pattern membership = some extended := by
  obtain ⟨matched, found⟩ := matchSlots_of_admits membership.origin pattern.slots admits
  refine ⟨{ matched with origins := matched.origins ++ [membership.origin] }, ?_⟩
  rw [extend?, ← meets]
  simp [Pattern.tuple, found]

theorem covers_extend? {row extended : Row} {pattern : Pattern} {membership : Membership}
    (fits : Fitting pattern membership) (success : row.extend? pattern membership = some extended)
    {slot : Slot} : extended.Covers slot ↔ row.Covers slot ∨ slot ∈ pattern.slots := by
  obtain ⟨matched, found, rfl⟩ := Option.map_eq_some_iff.mp success
  have covered : matched.Covers slot ↔ _ := covers_matchSlots fits found
  cases slot <;> exact covered

theorem admits_extendAll? {patterns : List Pattern} {combination : List Membership}
    {row extended : Row} (fits : List.Forall₂ Fitting patterns combination)
    (success : row.extendAll? patterns combination = some extended) :
    extended.Admits assignment ↔
      row.Admits assignment ∧ List.Forall₂ (Meets assignment) patterns combination := by
  induction fits generalizing row with
  | nil =>
      obtain rfl : row = extended := by simpa [extendAll?] using success
      simp
  | cons fits _ ih =>
      obtain ⟨middle, first, rest⟩ := Option.bind_eq_some_iff.mp success
      rw [ih rest, admits_extend? fits first, List.forall₂_cons, and_assoc]

theorem extendAll?_of_admits {patterns : List Pattern} {combination : List Membership} {row : Row}
    (fits : List.Forall₂ Fitting patterns combination) (admits : row.Admits assignment)
    (meets : List.Forall₂ (Meets assignment) patterns combination) :
    ∃ extended, row.extendAll? patterns combination = some extended := by
  induction meets generalizing row with
  | nil => exact ⟨row, rfl⟩
  | cons meets _ ih =>
      obtain ⟨fits, fit⟩ := List.forall₂_cons.mp fits
      obtain ⟨middle, first⟩ := extend?_of_admits admits meets
      obtain ⟨extended, rest⟩ := ih fit ((admits_extend? fits first).mpr ⟨admits, meets⟩)
      exact ⟨extended, by simp [extendAll?, first, rest]⟩

theorem covers_extendAll? {patterns : List Pattern} {combination : List Membership}
    {row extended : Row} (fits : List.Forall₂ Fitting patterns combination)
    (success : row.extendAll? patterns combination = some extended) {slot : Slot} :
    extended.Covers slot ↔ row.Covers slot ∨ ∃ pattern ∈ patterns, slot ∈ pattern.slots := by
  induction fits generalizing row with
  | nil =>
      obtain rfl : row = extended := by simpa [extendAll?] using success
      simp
  | cons fits _ ih =>
      obtain ⟨middle, first, rest⟩ := Option.bind_eq_some_iff.mp success
      rw [ih rest, covers_extend? fits first, List.exists_mem_cons_iff, or_assoc]

end Row

namespace Registry

/-- The ways to pick one membership for each pattern, in lexicographic order. -/
def combinations (registry : Registry) : List Pattern → List (List Membership)
  | [] => [[]]
  | pattern :: patterns =>
      (registry.membersAt pattern.relation).toList.flatMap fun membership =>
        (registry.combinations patterns).map (membership :: ·)

theorem mem_combinations {registry : Registry} {patterns : List Pattern}
    {combination : List Membership} :
    combination ∈ registry.combinations patterns ↔
      List.Forall₂ (fun pattern membership => membership ∈ registry.membersAt pattern.relation)
        patterns combination := by
  induction patterns generalizing combination with
  | nil => simp [combinations]
  | cons pattern patterns ih =>
      cases combination with
      | nil => simp [combinations]
      | cons membership combination => simp [combinations, ih]

theorem flatMap_extensions (registry : Registry) (pattern : Pattern) (row : Row)
    (later : Row → List Row) :
    (registry.extensions pattern row).flatMap later =
      (registry.membersAt pattern.relation).toList.flatMap fun membership =>
        ((row.extend? pattern membership).map later).getD [] := by
  rw [extensions]
  induction (registry.membersAt pattern.relation).toList with
  | nil => rfl
  | cons membership members ih =>
      cases extended : row.extend? pattern membership <;>
        simp [extended, ih]

theorem foldl_extensions (registry : Registry) (patterns : List Pattern) (rows : List Row) :
    patterns.foldl (fun rows pattern => rows.flatMap (registry.extensions pattern)) rows =
      rows.flatMap fun row =>
        (registry.combinations patterns).filterMap (row.extendAll? patterns) := by
  induction patterns generalizing rows with
  | nil => simp [combinations, Row.extendAll?]
  | cons pattern patterns ih =>
      rw [List.foldl_cons, ih, List.flatMap_assoc]
      congr 1
      funext row
      rw [flatMap_extensions, combinations, List.filterMap_flatMap]
      congr 1
      funext membership
      rw [List.filterMap_map]
      cases extended : row.extend? pattern membership <;>
        simp [Function.comp_def, Row.extendAll?, extended]

/-- The rows are the combinations of memberships that agree, in lexicographic order. -/
theorem rows_eq_combinations (registry : Registry) (patterns : List Pattern) :
    registry.rows patterns =
      (registry.combinations patterns).filterMap (Row.empty.extendAll? patterns) := by
  rw [rows, foldl_extensions, List.flatMap_singleton]

/-- All tuples of the relation have the length that the pattern asks for. -/
def Fits (registry : Registry) (pattern : Pattern) : Prop :=
  ∀ tuple ∈ registry.tuplesAt pattern.relation, pattern.slots.length = tuple.length

variable {registry : Registry} {patterns : List Pattern} {assignment : Assignment}

theorem fitting_of_mem_combinations (fits : ∀ pattern ∈ patterns, registry.Fits pattern)
    {combination : List Membership} (picked : combination ∈ registry.combinations patterns) :
    List.Forall₂ Row.Fitting patterns combination := by
  induction patterns generalizing combination with
  | nil => simpa using mem_combinations.mp picked
  | cons pattern patterns ih =>
      obtain ⟨fit, fits⟩ := List.forall_mem_cons.mp fits
      cases mem_combinations.mp picked with
      | cons member rest =>
          exact .cons (fit _ (mem_tuplesAt.mpr ⟨_, member, rfl⟩))
            (ih fits (mem_combinations.mpr rest))

/-- A row comes from tuples that are held, and it covers all slots of its patterns. -/
theorem held_of_mem_rows (fits : ∀ pattern ∈ patterns, registry.Fits pattern) {row : Row}
    (listed : row ∈ registry.rows patterns) :
    (∀ pattern ∈ patterns, pattern.tuple row.solution ∈ registry.tuplesAt pattern.relation) ∧
      ∀ pattern ∈ patterns, ∀ slot ∈ pattern.slots, row.Covers slot := by
  rw [rows_eq_combinations, List.mem_filterMap] at listed
  obtain ⟨combination, picked, success⟩ := listed
  have fit := fitting_of_mem_combinations fits picked
  constructor
  · have meets := ((Row.admits_extendAll? fit success).mp row.admits_solution).2
    rw [mem_combinations] at picked
    clear fits fit success
    induction picked with
    | nil => simp
    | cons member _ ih =>
        obtain ⟨meet, meets⟩ := List.forall₂_cons.mp meets
        exact List.forall_mem_cons.mpr ⟨mem_tuplesAt.mpr ⟨_, member, meet.symm⟩, ih meets⟩
  · intro pattern member slot inside
    exact (Row.covers_extendAll? fit success).mpr (Or.inr ⟨pattern, member, inside⟩)

/-- An assignment that turns all patterns into tuples that are held is admitted by a row. -/
theorem exists_row_of_held (fits : ∀ pattern ∈ patterns, registry.Fits pattern)
    (held : ∀ pattern ∈ patterns,
      pattern.tuple assignment ∈ registry.tuplesAt pattern.relation) :
    ∃ row ∈ registry.rows patterns, row.Admits assignment := by
  obtain ⟨combination, picked, meets⟩ : ∃ combination,
      combination ∈ registry.combinations patterns ∧
        List.Forall₂ (Row.Meets assignment) patterns combination := by
    clear fits
    induction patterns with
    | nil => exact ⟨[], by simp [combinations], .nil⟩
    | cons pattern patterns ih =>
        obtain ⟨first, held⟩ := List.forall_mem_cons.mp held
        obtain ⟨membership, member, same⟩ := mem_tuplesAt.mp first
        obtain ⟨combination, picked, meets⟩ := ih held
        exact ⟨membership :: combination,
          mem_combinations.mpr (.cons member (mem_combinations.mp picked)),
          .cons same.symm meets⟩
  have fit := fitting_of_mem_combinations fits picked
  obtain ⟨row, success⟩ := Row.extendAll?_of_admits fit Row.admits_empty meets
  refine ⟨row, ?_, (Row.admits_extendAll? fit success).mpr ⟨Row.admits_empty, meets⟩⟩
  rw [rows_eq_combinations, List.mem_filterMap]
  exact ⟨combination, picked, success⟩

end Registry
end FallingSand
