import FallingSand.Proofs.Mod.Values

/-!
# What the subjects of a relation inherit

A property statement under one clause, whose terms are different variables and whose first one the
statement is about, applies once for every membership of the relation, and with the origin of the
membership.  It also stands in the template of the relation, which knows the value of the last such
statement.
-/

namespace FallingSand

/-! ## Rows of one clause -/

namespace Row

variable {name : String} {names : List String}

/-- Different variables that are new are bound behind the bindings that there are. -/
theorem exists_matchSlots (origin : Origin) (ids : List ElementId) {row : Row}
    (distinct : names.Nodup) (fresh : ∀ name ∈ names, row.find? name = none) :
    ∃ more, matchSlots origin (names.map Slot.var) ids row =
      some { row with bindings := row.bindings ++ more } := by
  induction names generalizing ids row with
  | nil => exact ⟨[], by simp [matchSlots]⟩
  | cons name names induction =>
      cases ids with
      | nil => exact ⟨[], by simp [matchSlots]⟩
      | cons id ids =>
          obtain ⟨new, distinct⟩ := List.nodup_cons.mp distinct
          obtain ⟨unbound, fresh⟩ := List.forall_mem_cons.mp fresh
          have later : ∀ other ∈ names, Row.find?
              { row with bindings := row.bindings ++ [⟨name, id, origin⟩] } other = none := by
            intro other listed
            rw [find?_bind, fresh other listed, Option.none_or, if_neg]
            rintro rfl
            exact new listed
          obtain ⟨more, matched⟩ := induction ids distinct later
          refine ⟨⟨name, id, origin⟩ :: more, ?_⟩
          simp [matchSlots, unbound, matched]

/-- Every membership meets a pattern of different variables, and binds the first to its subject. -/
theorem exists_extend?_empty (distinct : (name :: names).Nodup) (place : Nat)
    (membership : Membership) :
    ∃ row, empty.extend? ⟨place, (name :: names).map Slot.var⟩ membership = some row ∧
      row.find? name = some ⟨name, membership.subject, membership.origin⟩ := by
  obtain ⟨new, distinct⟩ := List.nodup_cons.mp distinct
  have fresh : ∀ other ∈ names,
      Row.find? { empty with bindings := [⟨name, membership.subject, membership.origin⟩] } other =
        none := by
    intro other listed
    have differs : name ≠ other := by
      rintro rfl
      exact new listed
    simp [find?, differs]
  obtain ⟨more, matched⟩ := exists_matchSlots membership.origin membership.args distinct fresh
  have bound : matchSlots membership.origin ((name :: names).map Slot.var) membership.tuple empty =
      matchSlots membership.origin (names.map Slot.var) membership.args
        { empty with bindings := [⟨name, membership.subject, membership.origin⟩] } := rfl
  rw [extend?, bound, matched]
  exact ⟨_, rfl, by simp [find?]⟩

end Row

theorem Registry.rows_singleton (registry : Registry) (pattern : Pattern) :
    registry.rows [pattern] =
      (registry.membersAt pattern.relation).toList.filterMap (Row.empty.extend? pattern) := by
  simp [rows, extensions]

/-! ## Statements about the subjects of a relation -/

namespace Directive

variable {directive : Directive} {place : Nat} {key : PropertyKey} {value : Single}

/-- The directive gives a property to all subjects of the relation at a place. -/
def Bequeaths (directive : Directive) (place : Nat) (key : PropertyKey) (value : Single) : Prop :=
  ∃ name names, (name :: names).Nodup ∧
    directive.patterns = [⟨place, (name :: names).map Slot.var⟩] ∧
      directive.action = .property key (.var name) value

/-- Such a directive applies to the subject of every membership, with its origin. -/
theorem mem_consequences_of_bequeaths (bequeaths : directive.Bequeaths place key value)
    (registry : Registry) {id : ElementId} {provenance : Provenance} :
    .property id key value provenance ∈ directive.consequences registry ↔
      ∃ membership ∈ registry.membersAt place, membership.subject = id ∧
        provenance = .inherited membership.origin directive.ordinal := by
  obtain ⟨name, names, distinct, patterns, action⟩ := bequeaths
  have rows := patterns ▸ registry.rows_singleton ⟨place, (name :: names).map Slot.var⟩
  have applies {row : Row} {membership : Membership} (position : Nat)
      (bound : row.find? name = some ⟨name, membership.subject, membership.origin⟩) :
      directive.consequence? position row = some (.property membership.subject key value
        (.inherited membership.origin directive.ordinal)) := by
    simp [consequence?, action, Row.element?, bound, Directive.provenance, patterns]
  constructor
  · intro listed
    obtain ⟨row, among, position, success⟩ := exists_row_of_mem_consequences listed
    rw [rows] at among
    obtain ⟨membership, held, extended⟩ := List.mem_filterMap.mp among
    obtain ⟨matched, same, bound⟩ := Row.exists_extend?_empty distinct place membership
    obtain rfl := Option.some.inj (same.symm.trans extended)
    have equal := (applies position bound).symm.trans success
    cases equal
    exact ⟨membership, Array.mem_toList_iff.mp held, rfl, rfl⟩
  · rintro ⟨membership, held, rfl, rfl⟩
    obtain ⟨row, extended, bound⟩ := Row.exists_extend?_empty distinct place membership
    have among : row ∈ registry.rows directive.patterns := by
      rw [rows]
      exact List.mem_filterMap.mpr ⟨membership, Array.mem_toList_iff.mpr held, extended⟩
    exact mem_consequences_of_row among fun position => applies position bound

theorem mem_patternsAbout {slot : Slot} {pattern : Pattern} :
    pattern ∈ directive.patternsAbout place slot ↔
      ∃ name, slot = .var name ∧ pattern ∈ directive.patterns ∧ pattern.relation = place ∧
        pattern.slots.head? = some (.var name) := by
  cases slot with
  | element id => simp [patternsAbout]
  | var name => simp [patternsAbout, Pattern.hasSubject]

theorem mem_templateProperties : (key, value) ∈ directive.templateProperties place ↔
    ∃ name, directive.action = .property key (.var name) value ∧
      ∃ pattern ∈ directive.patterns, pattern.relation = place ∧
        pattern.slots.head? = some (.var name) := by
  rw [templateProperties]
  split
  · rename_i named subject given action
    simp only [List.mem_map, mem_patternsAbout, action, Action.property.injEq]
    constructor
    · rintro ⟨pattern, ⟨name, rfl, listed, same, first⟩, ⟨⟩⟩
      exact ⟨name, ⟨rfl, rfl, rfl⟩, pattern, listed, same, first⟩
    · rintro ⟨name, ⟨rfl, rfl, rfl⟩, pattern, listed, same, first⟩
      exact ⟨pattern, ⟨name, rfl, listed, same, first⟩, rfl⟩
  · rename_i different
    simp only [List.not_mem_nil, false_iff]
    rintro ⟨name, action, -⟩
    exact different _ _ _ action

theorem mem_templateTags {text : String} : text ∈ directive.templateTags place ↔
    ∃ name, directive.action = .tag (.var name) text ∧
      ∃ pattern ∈ directive.patterns, pattern.relation = place ∧
        pattern.slots.head? = some (.var name) := by
  rw [templateTags]
  split
  · rename_i subject given action
    simp only [List.mem_map, mem_patternsAbout, action, Action.tag.injEq]
    constructor
    · rintro ⟨pattern, ⟨name, rfl, listed, same, first⟩, rfl⟩
      exact ⟨name, ⟨rfl, rfl⟩, pattern, listed, same, first⟩
    · rintro ⟨name, ⟨rfl, rfl⟩, pattern, listed, same, first⟩
      exact ⟨pattern, ⟨name, rfl, listed, same, first⟩, rfl⟩
  · rename_i different
    simp only [List.not_mem_nil, false_iff]
    rintro ⟨name, action, -⟩
    exact different _ _ action

theorem mem_templateProperties_of_bequeaths (bequeaths : directive.Bequeaths place key value) :
    (key, value) ∈ directive.templateProperties place := by
  obtain ⟨name, names, -, patterns, action⟩ := bequeaths
  exact mem_templateProperties.mpr ⟨name, action, _, by rw [patterns]; exact List.mem_cons_self,
    rfl, rfl⟩

end Directive

/-! ## Templates -/

section Templates

variable {directives : List Directive} {place : Nat} {key : PropertyKey} {value : Single}

theorem isSome_get?_templateOf {directive : Directive} (listed : directive ∈ directives)
    (given : (key, value) ∈ directive.templateProperties place) :
    ((templateOf directives place).get? key).isSome = true := by
  rw [Template.get?, Option.isSome_map, List.findRev?_eq_find?_reverse, List.find?_isSome]
  refine ⟨(key, value), List.mem_reverse.mpr ?_, by simp⟩
  exact List.mem_flatMap.mpr ⟨directive, listed, given⟩

/-- Later directives than the one that a template has its value from do not give the property. -/
theorem exists_of_get?_templateOf
    (ordered : directives.Pairwise fun first second => first.ordinal < second.ordinal)
    (found : (templateOf directives place).get? key = some value) :
    ∃ directive ∈ directives, (key, value) ∈ directive.templateProperties place ∧
      ∀ other ∈ directives, ∀ given, (key, given) ∈ other.templateProperties place →
        other.ordinal ≤ directive.ordinal := by
  rw [Template.get?, Option.map_eq_some_iff] at found
  obtain ⟨⟨named, given⟩, found, rfl⟩ := found
  rw [List.findRev?_eq_find?_reverse, templateOf, List.reverse_flatMap, List.find?_flatMap,
    List.findSome?_eq_some_iff] at found
  obtain ⟨later, directive, earlier, split, found, others⟩ := found
  have among : directive ∈ directives := by
    rw [← List.mem_reverse, split]
    exact List.mem_append_right _ List.mem_cons_self
  obtain rfl : named = key := by simpa using List.find?_some found
  refine ⟨directive, among, List.mem_reverse.mp (List.mem_of_find?_eq_some found), ?_⟩
  intro other listed given contributes
  rw [← List.pairwise_reverse, split, List.pairwise_append, List.pairwise_cons] at ordered
  rw [← List.mem_reverse, split, List.mem_append, List.mem_cons] at listed
  rcases listed with after | rfl | before
  · have absent := List.find?_eq_none.mp (others other after) _ (List.mem_reverse.mpr contributes)
    simp at absent
  · exact Nat.le_refl _
  · exact Nat.le_of_lt (ordered.2.1.1 other before)

end Templates

end FallingSand
