import FallingSand.Proofs.Mod.Origins
import FallingSand.Proofs.Mod.Rules

/-!
# Property values of a compiled mod

Nothing is assigned to an element before the consequences are collected, and then only what a
property statement says.  So every property of an element of a compiled mod is zero or one of the
values in the statements, all of which the property accepts, and among several values it is one of
greatest provenance.
-/

namespace FallingSand

section Prevailing

variable {α : Type} {current : Option (Provenance × α)} {provenance : Provenance} {value : α}

theorem isSome_prevail : (prevail current provenance value).isSome = true := by
  cases current with
  | none => rfl
  | some standing =>
      simp only [prevail]
      split <;> rfl

theorem prevail_eq_some {result : Provenance × α}
    (stands : prevail current provenance value = some result) :
    result = (provenance, value) ∨ current = some result := by
  cases current with
  | none => exact Or.inl (Option.some.inj stands).symm
  | some standing =>
      simp only [prevail] at stands
      split at stands
      · exact Or.inl (Option.some.inj stands).symm
      · exact Or.inr stands

/-- What stands is outranked neither by what stood before nor by what came. -/
theorem le_of_prevail {result : Provenance × α}
    (stands : prevail current provenance value = some result) :
    provenance.le result.1 = true ∧
      ∀ earlier, current = some earlier → earlier.1.le result.1 = true := by
  cases current with
  | none =>
      obtain rfl := Option.some.inj stands
      exact ⟨provenance.le_refl, fun _ impossible => by cases impossible⟩
  | some standing =>
      simp only [prevail] at stands
      split at stands
      · rename_i outranked
        obtain rfl := Option.some.inj stands
        refine ⟨provenance.le_refl, fun earlier same => ?_⟩
        obtain rfl := Option.some.inj same
        exact outranked
      · rename_i outranks
        obtain rfl := Option.some.inj stands
        refine ⟨(Provenance.le_total _ _).resolve_right outranks, fun earlier same => ?_⟩
        obtain rfl := Option.some.inj same
        exact Provenance.le_refl _

end Prevailing

/-! ## Assignments that stand -/

namespace Catalog

variable {catalog : Catalog} {id other : ElementId} {key named : PropertyKey}

/-- The assignment of a property that stands. -/
def assignment? (catalog : Catalog) (id : ElementId) (key : PropertyKey) :
    Option (Provenance × Single) :=
  catalog.drafts[id.toNat]?.bind fun draft => draft.properties.get key

theorem assignment?_revise_of_same {change : Draft → Draft}
    (same : ∀ draft, (change draft).properties = draft.properties) :
    (catalog.revise id change).assignment? other key = catalog.assignment? other key := by
  rw [assignment?, assignment?, revise, Array.getElem?_modify]
  split
  · cases catalog.drafts[other.toNat]? with
    | none => rfl
    | some draft => simp [same]
  · rfl

theorem assignment?_assign (catalog : Catalog) (value : Single) (provenance : Provenance) :
    (catalog.revise id fun draft => draft.assign key value provenance).assignment? other named =
      if id = other ∧ key = named ∧ id.toNat < catalog.size then
        prevail (catalog.assignment? other named) provenance value
      else catalog.assignment? other named := by
  rw [assignment?, assignment?, revise, Array.getElem?_modify]
  by_cases here : id = other
  · subst here
    cases stands : catalog.drafts[id.toNat]? with
    | none =>
        have missing : ¬id.toNat < catalog.size := by
          rw [size, ← catalog.size_drafts]
          exact Nat.not_lt.mpr (Array.getElem?_eq_none_iff.mp stands)
        simp [missing]
    | some draft =>
        have inside : id.toNat < catalog.size := by
          rw [size, ← catalog.size_drafts]
          exact (Array.getElem?_eq_some_iff.mp stands).1
        by_cases alike : key = named
        · subst alike
          simp [inside, Draft.assign, PerProperty.get_set]
        · simp [alike, Draft.assign, PerProperty.get_set, Ne.symm alike]
  · have elsewhere : id.toNat ≠ other.toNat := fun same => here (ElementId.toNat_injective same)
    rw [if_neg elsewhere, if_neg fun both => here both.1]

end Catalog

namespace Consequence

variable {catalog : Catalog} {id : ElementId} {key : PropertyKey} {value : Single}
  {provenance : Provenance} {consequences : List Consequence}

theorem size_addTo (catalog : Catalog) (consequence : Consequence) :
    (addTo catalog consequence).size = catalog.size := by
  rw [Catalog.size, names_addTo, Catalog.size]

/-- What a fact about an element does to the assignments. -/
theorem assignment?_addTo (catalog : Catalog) (consequence : Consequence) (id : ElementId)
    (key : PropertyKey) :
    (addTo catalog consequence).assignment? id key = catalog.assignment? id key ∨
      ∃ value provenance, consequence = .property id key value provenance ∧
        (addTo catalog consequence).assignment? id key =
          prevail (catalog.assignment? id key) provenance value := by
  cases consequence with
  | property subject assigned value provenance =>
      rw [addTo, Catalog.assignment?_assign]
      split
      · rename_i here
        obtain ⟨rfl, rfl, -⟩ := here
        exact Or.inr ⟨value, provenance, rfl, rfl⟩
      · exact Or.inl rfl
  | tag subject text provenance => exact Or.inl (Catalog.assignment?_revise_of_same fun _ => rfl)
  | displayName subject text provenance =>
      exact Or.inl (Catalog.assignment?_revise_of_same fun _ => rfl)
  | description subject text provenance =>
      exact Or.inl (Catalog.assignment?_revise_of_same fun _ => rfl)
  | reaction rule => exact Or.inl rfl
  | transition rule => exact Or.inl rfl

theorem assignment?_addTo_property (inside : id.toNat < catalog.size) (key : PropertyKey)
    (value : Single) (provenance : Provenance) :
    (addTo catalog (.property id key value provenance)).assignment? id key =
      prevail (catalog.assignment? id key) provenance value := by
  rw [addTo, Catalog.assignment?_assign, if_pos ⟨rfl, rfl, inside⟩]

/-- An assignment that stands in the end stood before or is one of the consequences. -/
theorem mem_of_assignment?_foldl
    (stands : (consequences.foldl addTo catalog).assignment? id key = some (provenance, value)) :
    catalog.assignment? id key = some (provenance, value) ∨
      .property id key value provenance ∈ consequences := by
  induction consequences generalizing catalog with
  | nil => exact Or.inl stands
  | cons consequence consequences induction =>
      rcases induction stands with earlier | later
      · rcases assignment?_addTo catalog consequence id key with same | ⟨_, _, rfl, new⟩
        · exact Or.inl (same ▸ earlier)
        · rcases prevail_eq_some (new ▸ earlier) with this | before
          · cases this
            exact Or.inr List.mem_cons_self
          · exact Or.inl before
      · exact Or.inr (List.mem_cons_of_mem _ later)

/-- The assignment that stands in the end is outranked neither by one that stood before nor by one
of the consequences. -/
theorem le_of_assignment?_foldl (inside : id.toNat < catalog.size)
    (stands : (consequences.foldl addTo catalog).assignment? id key = some (provenance, value)) :
    (∀ earlier, catalog.assignment? id key = some earlier → earlier.1.le provenance = true) ∧
      ∀ other later, .property id key other later ∈ consequences → later.le provenance = true := by
  induction consequences generalizing catalog with
  | nil =>
      refine ⟨fun earlier stood => ?_, fun _ _ listed => by cases listed⟩
      obtain rfl := Option.some.inj (stood.symm.trans stands)
      exact provenance.le_refl
  | cons consequence consequences induction =>
      obtain ⟨before, rest⟩ := induction ((size_addTo catalog consequence).symm ▸ inside) stands
      constructor
      · intro earlier stood
        rcases assignment?_addTo catalog consequence id key with same | ⟨_, _, _, new⟩
        · exact before earlier (same.trans stood)
        · obtain ⟨next, follows⟩ := Option.isSome_iff_exists.mp isSome_prevail
          have ranked := (le_of_prevail follows).2 earlier stood
          exact Provenance.le_trans ranked (before next (new.trans follows))
      · intro other later listed
        rcases List.mem_cons.mp listed with rfl | listed
        · have new := assignment?_addTo_property inside key other later
          obtain ⟨next, follows⟩ := Option.isSome_iff_exists.mp isSome_prevail
          exact Provenance.le_trans (le_of_prevail follows).1 (before next (new.trans follows))
        · exact rest other later listed

theorem isSome_assignment?_foldl (inside : id.toNat < catalog.size)
    (given : (catalog.assignment? id key).isSome = true ∨
      .property id key value provenance ∈ consequences) :
    ((consequences.foldl addTo catalog).assignment? id key).isSome = true := by
  induction consequences generalizing catalog with
  | nil => exact given.resolve_right List.not_mem_nil
  | cons consequence consequences induction =>
      refine induction ((size_addTo catalog consequence).symm ▸ inside) ?_
      rcases given with earlier | listed
      · rcases assignment?_addTo catalog consequence id key with same | ⟨_, _, _, new⟩
        · exact Or.inl (same ▸ earlier)
        · exact Or.inl (new ▸ isSome_prevail)
      · rcases List.mem_cons.mp listed with rfl | later
        · left
          rw [assignment?_addTo_property inside]
          exact isSome_prevail
        · exact Or.inr later

end Consequence

/-! ## The table -/

namespace ElementTable

/-- An identifier past the table stands for the first element. -/
theorem properties_of_not_lt {table : ElementTable} {id : ElementId}
    (outside : ¬id.toNat < table.entries.size) :
    table.properties id = table.properties ElementId.empty := by
  have first : ElementId.empty.toNat < table.entries.size := table.size_pos
  rw [ElementTable.properties, ElementTable.get, dif_neg outside, ElementTable.properties,
    ElementTable.get, dif_pos first]
  rfl

end ElementTable

namespace Catalog

theorem get_properties_resolveAll (catalog : Catalog) (relationsOf : ElementId → List String)
    {id : ElementId} (inside : id.toNat < catalog.size) (key : PropertyKey) :
    ((catalog.resolveAll relationsOf).properties id).get key =
      ((catalog.assignment? id key).map (·.2)).getD Single.zero := by
  obtain ⟨draft, name, stands, -, finished⟩ := exists_get_resolveAll relationsOf inside
  rw [ElementTable.properties, finished, assignment?, stands]
  exact PerProperty.get_map _ _ _

theorem blank_define {catalog : Catalog} {name color : String} {id : ElementId} {after : Catalog}
    (success : catalog.define name color = .ok (id, after))
    (blank : ∀ draft ∈ catalog.drafts, draft.properties = PerProperty.fill none) :
    ∀ draft ∈ after.drafts, draft.properties = PerProperty.fill none := by
  intro draft listed
  rw [(define_eq_ok success).2.2.1] at listed
  rcases Array.mem_push.mp listed with old | rfl
  · exact blank draft old
  · rfl

end Catalog

namespace Directive

theorem consequence?_property {directive : Directive} {row : Row} {place : Nat} {id : ElementId}
    {key : PropertyKey} {value : Single} {provenance : Provenance}
    (success : directive.consequence? place row = some (.property id key value provenance)) :
    ∃ subject, directive.action = .property key subject value ∧
      row.element? subject = some id ∧ provenance = directive.provenance row subject := by
  rw [consequence?] at success
  split at success
  case h_2 subject _ action =>
    obtain ⟨_, found, same⟩ := Option.map_eq_some_iff.mp success
    cases same
    exact ⟨subject, action, found, rfl⟩
  case h_6 => split at success <;> cases success
  case h_7 => split at success <;> cases success
  case h_1 => cases success
  all_goals
    obtain ⟨_, -, different⟩ := Option.map_eq_some_iff.mp success
    cases different

theorem mem_consequences_property {directive : Directive} {id : ElementId} {key : PropertyKey}
    {value : Single} (patterns : directive.patterns = [])
    (action : directive.action = .property key (.element id) value) (registry : Registry) :
    .property id key value (.explicit directive.ordinal) ∈ directive.consequences registry := by
  simp [consequences, patterns, consequence?, action, Row.element?, provenance]

end Directive

namespace Declared

variable {declared : Declared} {directives : List Directive} {entries : List Entry}

/-- Nothing is assigned by declarations. -/
theorem assignment?_of_gathered (gathered : Declared.ofEntries entries = .ok declared)
    (id : ElementId) (key : PropertyKey) : declared.catalog.assignment? id key = none := by
  have blank : ∀ draft ∈ declared.catalog.drafts, draft.properties = PerProperty.fill none := by
    refine catalog_induction (P := fun catalog =>
      ∀ draft ∈ catalog.drafts, draft.properties = PerProperty.fill none) ?_
      (fun _ _ _ _ _ success blank => Catalog.blank_define success blank) gathered
    intro draft listed
    obtain rfl : draft = Draft.ofColor none := by simpa [Catalog.initial] using listed
    rfl
  rw [Catalog.assignment?, Option.bind_eq_none_iff]
  intro draft stands
  rw [blank draft (Array.mem_of_getElem? stands), PerProperty.get_fill]

/-- A property of an element has a value from a consequence that none of them outranks, or none of
them assigns it and it is zero. -/
theorem value_ruleSet (gathered : Declared.ofEntries entries = .ok declared)
    (directives : List Directive) {id : ElementId} (inside : id.toNat < declared.catalog.size)
    (key : PropertyKey) :
    (∃ provenance, .property id key
        (((declared.ruleSet directives).elements.properties id).get key) provenance ∈
          declared.consequences directives ∧
        ∀ other later, .property id key other later ∈ declared.consequences directives →
          later.le provenance = true) ∨
      (∀ value provenance,
        .property id key value provenance ∉ declared.consequences directives) ∧
        ((declared.ruleSet directives).elements.properties id).get key = Single.zero := by
  have names := Consequence.names_foldl_addTo declared.catalog (declared.consequences directives)
  rw [ruleSet, RuleSet.ofRules, Catalog.get_properties_resolveAll _ _
    (by rw [Catalog.size, names]; exact inside)]
  cases stands : ((declared.consequences directives).foldl Consequence.addTo
    declared.catalog).assignment? id key with
  | some assigned =>
      obtain ⟨provenance, value⟩ := assigned
      rcases Consequence.mem_of_assignment?_foldl stands with before | listed
      · rw [assignment?_of_gathered gathered] at before
        cases before
      · exact Or.inl ⟨provenance, listed, (Consequence.le_of_assignment?_foldl inside stands).2⟩
  | none =>
      refine Or.inr ⟨fun value provenance listed => ?_, rfl⟩
      have given := Consequence.isSome_assignment?_foldl inside (Or.inr listed)
      rw [stands] at given
      cases given

end Declared

/-- Every property of a compiled mod has a value that it accepts. -/
theorem Declarations.accepts_of_compiled {declarations : Declarations} {rules : RuleSet}
    (compiled : declarations.compile = .ok rules) (id : ElementId) (key : PropertyKey) :
    key.accepts ((rules.elements.properties id).get key) = true := by
  obtain ⟨declared, directives, gathered, checked, -, rfl⟩ := compile_eq_ok_iff.mp compiled
  have accepts (id : ElementId) (inside : id.toNat < declared.catalog.size) :
      key.accepts (((declared.ruleSet directives).elements.properties id).get key) = true := by
    rcases Declared.value_ruleSet gathered directives inside key with
      ⟨provenance, listed, -⟩ | ⟨-, zero⟩
    · obtain ⟨entry, -, directive, row, place, directs, success, -⟩ :=
        Declared.exists_source gathered checked listed
      obtain ⟨subject, action, -⟩ := Directive.consequence?_property success
      have acts := directs.acts
      rw [action] at acts
      generalize entry.statement = statement at acts
      cases acts with
      | property accepted => exact accepted
    · rw [zero]
      cases key <;> decide
  by_cases inside : id.toNat < declared.catalog.size
  · exact accepts id inside
  · have outside : ¬id.toNat < (declared.ruleSet directives).elements.entries.size := by
      rw [← ElementTable.size, Declared.size_ruleSet]
      exact inside
    rw [ElementTable.properties_of_not_lt outside]
    exact accepts ElementId.empty declared.catalog.size_pos

/-- A value that a statement at the top gives to a named element is the value of the property, if no
statement gives another one. -/
theorem Declarations.value_of_named {declarations : Declarations} {rules : RuleSet}
    (compiled : declarations.compile = .ok rules) {name : String} {key : PropertyKey}
    {value : Single} {path : List Nat}
    (given : ⟨path, [], .property key (.element name) value⟩ ∈ declarations.entries)
    (only : ∀ entry ∈ declarations.entries, ∀ subject other,
      entry.statement = .property key subject other → other = value) :
    ∃ id, rules.elements.idOf? name = some id ∧
      (rules.elements.properties id).get key = value := by
  obtain ⟨declared, directives, gathered, checked, -, rfl⟩ := compile_eq_ok_iff.mp compiled
  obtain ⟨directive, among, directs⟩ := Declared.exists_directive checked given rfl
  have patterns := (Declared.patterns_eq_nil_iff directs).mpr rfl
  obtain ⟨slot, action, resolves⟩ := Declared.exists_property directs rfl
  obtain ⟨place, found, rfl⟩ := Declared.resolves_element resolves.1
  refine ⟨⟨UInt16.ofNat place⟩, ?_, ?_⟩
  · rw [Declared.idOf?_ruleSet, found]
    rfl
  · have assigned : .property ⟨UInt16.ofNat place⟩ key value (.explicit directive.ordinal) ∈
        declared.consequences directives :=
      List.mem_flatMap.mpr ⟨directive, among,
        Directive.mem_consequences_property patterns action _⟩
    rcases Declared.value_ruleSet gathered directives (Catalog.has_of_find? found) key with
      ⟨provenance, listed, -⟩ | ⟨none, -⟩
    · obtain ⟨entry, inside, other, _, _, otherDirects, success, -⟩ :=
        Declared.exists_source gathered checked listed
      obtain ⟨subject, otherAction, -⟩ := Directive.consequence?_property success
      obtain ⟨term, statement, -⟩ := Declared.property_of_directs otherDirects otherAction
      exact only entry inside term _ statement
    · exact absurd assigned (none value _)

end FallingSand
