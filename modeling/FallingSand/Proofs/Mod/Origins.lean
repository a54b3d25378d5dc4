import FallingSand.Mod.Catalog
import FallingSand.Proofs.Mod.Saturation

/-!
# Origins and their precedence

Memberships are numbered over all relations as they are found, so no two of them have the same
origin.  Origins are in a total order, and so are the provenances made of them: what is said by name
comes after what is inherited, a later origin after an earlier one, and under one origin a later
statement after an earlier one.
-/

namespace FallingSand

/-! ## Precedence -/

namespace Origin

variable {first second third : Origin}

theorem le_iff : first.le second = true ↔ first.statement < second.statement ∨
    first.statement = second.statement ∧ first.sequence ≤ second.sequence := by
  simp [le]

theorem le_refl (origin : Origin) : origin.le origin = true :=
  le_iff.mpr (Or.inr ⟨rfl, Nat.le_refl _⟩)

theorem le_trans (one : first.le second = true) (other : second.le third = true) :
    first.le third = true := by
  rw [le_iff] at one other ⊢
  omega

theorem le_total (first second : Origin) : first.le second = true ∨ second.le first = true := by
  rw [le_iff, le_iff]
  omega

theorem le_antisymm (one : first.le second = true) (other : second.le first = true) :
    first = second := by
  rw [le_iff] at one other
  cases first
  cases second
  simp only [mk.injEq] at one other ⊢
  omega

end Origin

namespace Provenance

variable {first second third : Provenance} {origin later : Origin} {statement other : Nat}

theorem inherited_le_iff : (inherited origin statement).le (inherited later other) = true ↔
    origin = later ∧ statement ≤ other ∨ origin ≠ later ∧ origin.le later = true := by
  rw [le]
  split
  · simp [*]
  · simp [*]

theorem origin_le (ranked : (inherited origin statement).le (inherited later other) = true) :
    origin.le later = true := by
  rcases inherited_le_iff.mp ranked with ⟨rfl, -⟩ | ⟨-, earlier⟩
  · exact origin.le_refl
  · exact earlier

theorem statement_le (ranked : (inherited origin statement).le (inherited origin other) = true) :
    statement ≤ other := by
  rcases inherited_le_iff.mp ranked with ⟨-, earlier⟩ | ⟨different, -⟩
  · exact earlier
  · exact absurd rfl different

theorem le_refl (provenance : Provenance) : provenance.le provenance = true := by
  cases provenance <;> simp [le]

theorem le_trans (one : first.le second = true) (following : second.le third = true) :
    first.le third = true := by
  cases first with
  | explicit first =>
      cases second with
      | inherited origin statement => cases one
      | explicit second =>
          cases third with
          | inherited origin statement => cases following
          | explicit third =>
              simp only [le, decide_eq_true_eq] at one following ⊢
              omega
  | inherited origin statement =>
      cases third with
      | explicit third => rfl
      | inherited latest third =>
          cases second with
          | explicit second => cases following
          | inherited later second =>
              rw [inherited_le_iff] at one following ⊢
              rcases one with ⟨rfl, one⟩ | ⟨differs, one⟩
              · exact following.imp_left fun both => ⟨both.1, one.trans both.2⟩
              · rcases following with ⟨rfl, -⟩ | ⟨differsLater, following⟩
                · exact Or.inr ⟨differs, one⟩
                · refine Or.inr ⟨?_, Origin.le_trans one following⟩
                  rintro rfl
                  exact differs (Origin.le_antisymm one following)

theorem le_total (first second : Provenance) : first.le second = true ∨ second.le first = true := by
  cases first with
  | explicit first =>
      cases second with
      | inherited origin statement => exact Or.inr rfl
      | explicit second =>
          simp only [le, decide_eq_true_eq]
          omega
  | inherited origin statement =>
      cases second with
      | explicit second => exact Or.inl rfl
      | inherited later second =>
          rw [inherited_le_iff, inherited_le_iff]
          by_cases same : origin = later
          · rcases Nat.le_total statement second with earlier | earlier
            · exact Or.inl (Or.inl ⟨same, earlier⟩)
            · exact Or.inr (Or.inl ⟨same.symm, earlier⟩)
          · rcases origin.le_total later with earlier | earlier
            · exact Or.inl (Or.inr ⟨same, earlier⟩)
            · exact Or.inr (Or.inr ⟨Ne.symm same, earlier⟩)

end Provenance

/-! ## Numbered memberships -/

namespace Registry

variable {registry : Registry} {place : Nat}

theorem mem_membersAt_put {other : Nat} {membership member : Membership}
    (inside : (registry.arityAt? place).isSome = true) :
    member ∈ (registry.put place membership).membersAt other ↔
      member ∈ registry.membersAt other ∨ place = other ∧ member = membership := by
  rw [membersAt_put inside]
  split
  · simp [*]
  · simp [*]

/-- Memberships are told apart by their numbers, which are below that of the next one. -/
structure Numbered (registry : Registry) : Prop where
  /-- The next number is new. -/
  below : ∀ place, ∀ membership ∈ registry.membersAt place,
    membership.origin.sequence < registry.sequence
  /-- A number belongs to one membership of one relation. -/
  unique : ∀ place other, ∀ first ∈ registry.membersAt place, ∀ second ∈ registry.membersAt other,
    first.origin.sequence = second.origin.sequence → place = other ∧ first = second

theorem insertionKeeps_numbered : InsertionKeeps Numbered := by
  intro registry place subject args statement numbered
  rcases registry.insertAt_cases place subject args statement with ⟨-, same⟩ | ⟨lacks, new⟩
  · rw [same]
    exact numbered
  · rw [new]
    constructor
    · intro other membership held
      rw [sequence_put]
      rcases (mem_membersAt_put lacks.1).mp held with old | ⟨-, rfl⟩
      · exact (numbered.below other membership old).trans (Nat.lt_succ_self _)
      · exact Nat.lt_succ_self _
    · intro one other first held second heldToo same
      rcases (mem_membersAt_put lacks.1).mp held with old | ⟨rfl, rfl⟩
      · rcases (mem_membersAt_put lacks.1).mp heldToo with oldToo | ⟨rfl, rfl⟩
        · exact numbered.unique one other first old second oldToo same
        · exact absurd same (Nat.ne_of_lt (numbered.below one first old))
      · rcases (mem_membersAt_put lacks.1).mp heldToo with oldToo | ⟨rfl, rfl⟩
        · exact absurd same.symm (Nat.ne_of_lt (numbered.below other second oldToo))
        · exact ⟨rfl, rfl⟩

/-- The relations have the templates that directives make for them. -/
def Templated (directives : List Directive) (registry : Registry) : Prop :=
  ∀ place relation, registry.relations[place]? = some relation →
    relation.template = templateOf directives place

theorem insertionKeeps_templated (directives : List Directive) :
    InsertionKeeps (Templated directives) := by
  intro registry place subject args statement templated
  rcases registry.insertAt_cases place subject args statement with ⟨-, same⟩ | ⟨-, new⟩
  · rw [same]
    exact templated
  · rw [new]
    intro other relation stands
    rw [relations_put] at stands
    split at stands
    · obtain ⟨before, found, rfl⟩ := Option.map_eq_some_iff.mp stands
      exact templated other before found
    · exact templated other relation stands

theorem templated_withTemplates (registry : Registry) (directives : List Directive) :
    (registry.withTemplates directives).Templated directives := by
  intro place relation stands
  rw [withTemplates, Array.getElem?_mapIdx] at stands
  obtain ⟨before, -, rfl⟩ := Option.map_eq_some_iff.mp stands
  rfl

end Registry
end FallingSand
