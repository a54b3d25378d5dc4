import FallingSand.Mod.Closure

/-!
# What a registry holds

A registry is looked at through the list of tuples of each relation and through the lengths that the
relations ask for.  The one operation that changes a registry either leaves it as it is or puts one
new tuple behind those of one relation; everything that grows by insertions is derived from that.
-/

namespace FallingSand
namespace Registry

variable {registry : Registry} {place other : Nat} {membership : Membership}

/-- The tuples of the relation at a place, in the order of discovery. -/
def tuplesAt (registry : Registry) (place : Nat) : List (List ElementId) :=
  (registry.membersAt place).toList.map Membership.tuple

/-- The length of the tuples of the relation at a place, if there is one. -/
def arityAt? (registry : Registry) (place : Nat) : Option Nat :=
  registry.relations[place]?.map (·.arity)

/-- The registry with one membership more at the end of a relation. -/
def put (registry : Registry) (place : Nat) (membership : Membership) : Registry :=
  { registry with
    relations := registry.relations.modify place (·.add membership)
    sequence := registry.sequence + 1 }

@[simp]
theorem sequence_put : (registry.put place membership).sequence = registry.sequence + 1 := rfl

theorem relations_put :
    (registry.put place membership).relations[other]? =
      if place = other then registry.relations[other]?.map (·.add membership)
      else registry.relations[other]? :=
  Array.getElem?_modify

@[simp]
theorem arityAt?_put :
    (registry.put place membership).arityAt? other = registry.arityAt? other := by
  rw [arityAt?, relations_put]
  split
  · rw [Option.map_map]
    rfl
  · rfl

theorem membersAt_put (inside : (registry.arityAt? place).isSome = true) :
    (registry.put place membership).membersAt other =
      if place = other then (registry.membersAt other).push membership
      else registry.membersAt other := by
  rw [membersAt, relations_put]
  by_cases same : place = other
  · subst same
    obtain ⟨relation, found⟩ : ∃ relation, registry.relations[place]? = some relation := by
      simpa [arityAt?, Option.isSome_iff_exists] using inside
    simp [membersAt, found, Relation.add]
  · simp [same, membersAt]

theorem tuplesAt_put (inside : (registry.arityAt? place).isSome = true) :
    (registry.put place membership).tuplesAt other =
      if place = other then registry.tuplesAt other ++ [membership.tuple]
      else registry.tuplesAt other := by
  rw [tuplesAt, membersAt_put inside]
  split
  · simp [tuplesAt]
  · rfl

theorem mem_tuplesAt {tuple : List ElementId} :
    tuple ∈ registry.tuplesAt place ↔
      ∃ membership ∈ registry.membersAt place, membership.tuple = tuple := by
  simp [tuplesAt]

theorem lacksAt_iff {tuple : List ElementId} :
    registry.lacksAt place tuple = true ↔
      (registry.arityAt? place).isSome = true ∧ tuple ∉ registry.tuplesAt place := by
  rw [lacksAt, arityAt?, mem_tuplesAt, membersAt]
  cases registry.relations[place]? with
  | none => simp
  | some relation =>
      have agree := relation.holds_iff tuple
      simp only [Option.any_some, Bool.not_eq_true', Option.map_some, Option.isSome_some, true_and]
      rw [← agree, Bool.not_eq_true]

/-- All that an insertion can do: nothing, because the tuple is there or has no place to be, or put
a new tuple behind the others of its relation. -/
theorem insertAt_cases (registry : Registry) (place : Nat) (subject : ElementId)
    (args : List ElementId) (statement : Nat) :
    ((registry.arityAt? place).isSome = true → subject :: args ∈ registry.tuplesAt place) ∧
        registry.insertAt place subject args statement = (false, registry) ∨
      ((registry.arityAt? place).isSome = true ∧ subject :: args ∉ registry.tuplesAt place) ∧
        registry.insertAt place subject args statement =
          (true, registry.put place ⟨subject, args, ⟨statement, registry.sequence⟩⟩) := by
  by_cases lacks : registry.lacksAt place (subject :: args) = true
  · exact Or.inr ⟨lacksAt_iff.mp lacks, by simp [insertAt, lacks, put]⟩
  · refine Or.inl ⟨fun inside => ?_, by simp [insertAt, lacks]⟩
    exact Classical.byContradiction fun absent => lacks (lacksAt_iff.mpr ⟨inside, absent⟩)

/-! ## Growth -/

/-- Nothing held before is lost, and the relations are the same. -/
structure Grows (before after : Registry) : Prop where
  /-- The relations keep their names. -/
  names : after.names = before.names
  /-- The relations keep the lengths of their tuples. -/
  arities : ∀ place, after.arityAt? place = before.arityAt? place
  /-- Every tuple stays. -/
  tuples : ∀ place, before.tuplesAt place ⊆ after.tuplesAt place

namespace Grows

theorem refl (registry : Registry) : registry.Grows registry :=
  ⟨rfl, fun _ => rfl, fun _ _ held => held⟩

theorem trans {before between after : Registry} (first : before.Grows between)
    (second : between.Grows after) : before.Grows after where
  names := second.names.trans first.names
  arities place := (second.arities place).trans (first.arities place)
  tuples place _ held := second.tuples place (first.tuples place held)

theorem put (inside : (registry.arityAt? place).isSome = true) :
    registry.Grows (registry.put place membership) where
  names := rfl
  arities _ := arityAt?_put
  tuples other tuple held := by
    rw [tuplesAt_put inside]
    split
    · exact List.mem_append_left _ held
    · exact held

theorem insertAt (registry : Registry) (place : Nat) (subject : ElementId)
    (args : List ElementId) (statement : Nat) :
    registry.Grows (registry.insertAt place subject args statement).2 := by
  rcases registry.insertAt_cases place subject args statement with ⟨-, same⟩ | ⟨lacks, new⟩
  · rw [same]
    exact refl registry
  · rw [new]
    exact put lacks.1

end Grows
end Registry
end FallingSand
