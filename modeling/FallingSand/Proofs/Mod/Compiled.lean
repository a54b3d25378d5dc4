import FallingSand.Mod.Compile
import FallingSand.Proofs.Mod.Membership

/-!
# What a mod compiles to

Compiling a mod succeeds when its declarations are gathered, its statements are checked, and none of
its rules starts from `Empty`.  What comes out is determined by what it declares and by its
directives: the elements keep their names, and the registry is the closed one.
-/

namespace FallingSand

/-! ## The table of a catalog -/

namespace Catalog

variable {catalog : Catalog} {relationsOf : ElementId → List String}

theorem size_resolveAll : (catalog.resolveAll relationsOf).size = catalog.size := by
  simp [resolveAll, ElementTable.size, size]

theorem getElem?_resolveAll (relationsOf : ElementId → List String) (place : Nat) :
    (catalog.resolveAll relationsOf).entries[place]?.map (·.name) =
      catalog.names.names[place]? := by
  by_cases inside : place < catalog.names.names.size
  · simp [resolveAll, Roster.size, inside, Draft.finish]
    rfl
  · simp [resolveAll, Roster.size, inside]

/-- An element of the finished table is made of its draft and its name. -/
theorem exists_get_resolveAll (relationsOf : ElementId → List String) {id : ElementId}
    (inside : id.toNat < catalog.size) :
    ∃ draft name, catalog.drafts[id.toNat]? = some draft ∧
      catalog.names.names[id.toNat]? = some name ∧
      (catalog.resolveAll relationsOf).get id = draft.finish id name (relationsOf id) := by
  have drafted : id.toNat < catalog.drafts.size := by
    rw [catalog.size_drafts]
    exact inside
  have listed : id.toNat < (catalog.resolveAll relationsOf).entries.size := by
    rw [← ElementTable.size, size_resolveAll]
    exact inside
  refine ⟨_, _, Array.getElem?_eq_getElem drafted, Array.getElem?_eq_getElem inside, ?_⟩
  rw [ElementTable.get, dif_pos listed]
  simp [resolveAll, ElementId.toNat]
  rfl

/-- Looking a name up in the finished table finds what the catalog finds. -/
theorem idOf?_resolveAll (name : String) :
    (catalog.resolveAll relationsOf).idOf? name =
      (catalog.names.find? name).map fun place => ⟨UInt16.ofNat place⟩ := by
  rw [ElementTable.idOf?]
  congr 1
  ext place
  rw [Roster.find?_eq_some_iff, Array.findIdx?_eq_some_iff_getElem,
    ← getElem?_resolveAll relationsOf]
  constructor
  · rintro ⟨inside, same, -⟩
    simpa [inside] using same
  · intro stands
    obtain ⟨element, listed, same⟩ := Option.map_eq_some_iff.mp stands
    obtain ⟨inside, here⟩ := Array.getElem?_eq_some_iff.mp listed
    refine ⟨inside, by simp [here, same], fun before earlier found => ?_⟩
    have other : catalog.names.names[before]? = some name := by
      rw [← getElem?_resolveAll relationsOf]
      simpa [Nat.lt_trans earlier inside] using found
    rw [getElem?_resolveAll] at stands
    rw [← Roster.find?_eq_some_iff] at other stands
    exact absurd (Option.some.inj (other.symm.trans stands)) earlier.ne

end Catalog

namespace Consequence

theorem names_addTo (catalog : Catalog) (consequence : Consequence) :
    (addTo catalog consequence).names = catalog.names := by
  cases consequence <;> rfl

theorem names_foldl_addTo (catalog : Catalog) (consequences : List Consequence) :
    (consequences.foldl addTo catalog).names = catalog.names :=
  List.foldlRecOn (motive := fun after : Catalog => after.names = catalog.names) _ _ rfl
    fun _ same consequence _ => (names_addTo _ consequence).trans same

end Consequence

/-! ## The rule set -/

namespace Declared

/-- The registry with all memberships. -/
def closed (declared : Declared) (directives : List Directive) : Registry :=
  (declared.registry.withTemplates directives).close directives declared.catalog.size

/-- Everything that the directives amount to. -/
def consequences (declared : Declared) (directives : List Directive) : List Consequence :=
  directives.flatMap fun directive => directive.consequences (declared.closed directives)

/-- The rule set of what is declared and of the directives. -/
def ruleSet (declared : Declared) (directives : List Directive) : RuleSet :=
  let consequences := declared.consequences directives
  RuleSet.ofRules declared.title
    ((consequences.foldl Consequence.addTo declared.catalog).resolveAll
      (declared.closed directives).relationsOf)
    (declared.closed directives)
    (consequences.filterMap Consequence.reaction?) (consequences.filterMap Consequence.transition?)

end Declared

namespace Directive

theorem checkedConsequences_eq_ok_iff {directive : Directive} {registry : Registry}
    {consequences : List Consequence} :
    directive.checkedConsequences registry = .ok consequences ↔
      (∀ consequence ∈ directive.consequences registry, consequence.startsFromEmpty = false) ∧
        directive.consequences registry = consequences := by
  rw [checkedConsequences]
  split
  · rename_i starts
    obtain ⟨consequence, listed, empty⟩ := List.any_eq_true.mp starts
    refine iff_of_false (by rintro ⟨⟩) fun both => ?_
    simp [both.1 consequence listed] at empty
  · rename_i occupied
    rw [Except.ok.injEq, iff_and_self]
    intro _
    simpa using occupied

theorem mapM_checkedConsequences_eq_ok_iff {directives : List Directive} {registry : Registry}
    {lists : List (List Consequence)} :
    (directives.mapM fun directive => directive.checkedConsequences registry) = .ok lists ↔
      (∀ directive ∈ directives, ∀ consequence ∈ directive.consequences registry,
        consequence.startsFromEmpty = false) ∧
        (directives.map fun directive => directive.consequences registry) = lists := by
  simp only [mapM_eq_ok_iff, checkedConsequences_eq_ok_iff, List.forall₂_and_left]
  rw [← List.forall₂_map_left_iff (R := Eq), List.forall₂_eq_eq_eq]

end Directive

/-- A mod compiles exactly when what it declares is gathered, its statements are checked and none of
its rules starts from `Empty`. -/
theorem Declarations.compile_eq_ok_iff {declarations : Declarations} {rules : RuleSet} :
    declarations.compile = .ok rules ↔
      ∃ declared directives,
        Declared.ofEntries declarations.entries = .ok declared ∧
        declared.directives declarations.entries = .ok directives ∧
        (∀ consequence ∈ declared.consequences directives, consequence.startsFromEmpty = false) ∧
        rules = declared.ruleSet directives := by
  have startless (declared : Declared) (directives : List Directive) :
      (∀ consequence ∈ declared.consequences directives, consequence.startsFromEmpty = false) ↔
        ∀ directive ∈ directives,
          ∀ consequence ∈ directive.consequences (declared.closed directives),
            consequence.startsFromEmpty = false := by
    simp only [Declared.consequences, List.mem_flatMap, forall_exists_index, and_imp]
    exact ⟨fun occupied directive listed consequence => occupied consequence directive listed,
      fun occupied consequence directive listed => occupied directive listed consequence⟩
  simp only [compile, bind_eq_ok_iff, Directive.mapM_checkedConsequences_eq_ok_iff, startless]
  constructor
  · rintro ⟨declared, gathered, directives, checked, consequences, ⟨occupied, rfl⟩, same⟩
    cases same
    exact ⟨declared, directives, gathered, checked, occupied, rfl⟩
  · rintro ⟨declared, directives, gathered, checked, occupied, rfl⟩
    exact ⟨declared, gathered, directives, checked, _, ⟨occupied, rfl⟩, rfl⟩

namespace Declared

variable {declared : Declared} {directives : List Directive} {entries : List Entry}

theorem idOf?_ruleSet (name : String) :
    (declared.ruleSet directives).elements.idOf? name =
      (declared.catalog.names.find? name).map fun place => ⟨UInt16.ofNat place⟩ := by
  rw [ruleSet, RuleSet.ofRules, Catalog.idOf?_resolveAll, Consequence.names_foldl_addTo]

theorem size_ruleSet : (declared.ruleSet directives).elements.size = declared.catalog.size := by
  rw [ruleSet, RuleSet.ofRules, Catalog.size_resolveAll, Catalog.size,
    Consequence.names_foldl_addTo, Catalog.size]

theorem names_closed : (declared.closed directives).names = declared.registry.names :=
  (declared.registry.withTemplates directives).names_close directives declared.catalog.size

theorem within_closed (gathered : Declared.ofEntries entries = .ok declared)
    (checked : declared.directives entries = .ok directives) :
    (declared.closed directives).Within declared.shape declared.shape.tuples :=
  within_close (wellFormed_of_checked checked)
    (within_withTemplates (tuplesAt_of_gathered gathered) directives _) (fun _ => subset_rfl)
    fun directive listed => closes_tuples (wellFormed_of_checked checked directive listed)

end Declared
end FallingSand
