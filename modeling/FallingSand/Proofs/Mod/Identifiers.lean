import FallingSand.Proofs.FirstPlaces
import FallingSand.Proofs.Mod.Direct

/-!
# Identifiers

Elements are numbered in the order in which their names are first declared, without gaps, and no
further element is declared when there are as many as identifiers.  So an identifier always stands
for the same name, in the catalog as well as in the finished table.
-/

namespace FallingSand

namespace Catalog

variable {catalog : Catalog} {id : ElementId} {name color : String}

/-! ## The names of a catalog -/

/-- The names in the order of their identifiers. -/
def nameList (catalog : Catalog) : List String :=
  catalog.names.names.toList

theorem length_nameList (catalog : Catalog) : catalog.nameList.length = catalog.size := rfl

theorem idOf_eq_ok_iff_nameList :
    catalog.idOf name = .ok id ↔ catalog.nameList[id.toNat]? = some name := by
  rw [idOf_eq_ok_iff, Roster.find?_eq_some_iff, nameList, Array.getElem?_toList]

/-- A declared element gets the number of elements before it, which is no greater than the greatest
identifier. -/
theorem toNat_of_define {defined : Catalog}
    (success : catalog.define name color = .ok (id, defined)) : id.toNat = catalog.size := by
  have room : catalog.size < maxElements := (define_succeeds_iff.mp ⟨_, success⟩).2
  rw [(define_eq_ok success).1]
  exact UInt16.toNat_ofNat_of_lt' room

theorem perform_define_of_fails (fails : ¬Succeeds (catalog.define name color)) :
    (Operation.define name color).perform catalog = catalog := by
  rw [Operation.perform]
  split
  · rename_i defined success
    exact absurd ⟨_, success⟩ fails
  · rfl

namespace Operation

/-- The name that an operation declares. -/
def name? : Operation → Option String
  | define name _ => some name
  | assignDirect _ _ _ | call _ | addTag _ _ _ | addDescription _ _ _ => none

/-- A name is added if it is new and there is room. -/
theorem nameList_perform_define (catalog : Catalog) (name color : String) :
    ((define name color).perform catalog).nameList =
      if name ∉ catalog.nameList ∧ catalog.nameList.length < maxElements then
        catalog.nameList ++ [name]
      else catalog.nameList := by
  split
  · rename_i new
    obtain ⟨⟨id, defined⟩, success⟩ := define_succeeds_iff.mpr new
    rw [perform, success]
    exact names_define success
  · rename_i refused
    rw [perform_define_of_fails fun success => refused (define_succeeds_iff.mp success)]

/-- Only declarations add names. -/
theorem nameList_perform_of_name? {operation : Operation} (silent : operation.name? = none)
    (catalog : Catalog) : (operation.perform catalog).nameList = catalog.nameList := by
  cases operation with
  | define name color => cases silent
  | assignDirect name key value =>
      rw [nameList, perform, names_assignDirect]
      rfl
  | call made =>
      rw [nameList, perform, Call.names_perform]
      rfl
  | addTag id text provenance => rfl
  | addDescription id text provenance => rfl

end Operation

/-- After any operations, the elements are `Empty` and the different names that have been declared,
in the order of their first declarations, as many of them as there are identifiers. -/
theorem nameList_after_initial (history : List Operation) :
    (initial.after history).nameList =
      ((emptyName :: history.filterMap Operation.name?).eraseDups).take maxElements := by
  induction history using List.reverseRecOn with
  | nil => rfl
  | append_singleton history operation induction =>
      rw [after, List.foldl_append, List.foldl_cons, List.foldl_nil, ← after, List.filterMap_append]
      cases silent : operation.name? with
      | none =>
          rw [Operation.nameList_perform_of_name? silent, induction]
          simp [silent]
      | some name =>
          obtain ⟨color, rfl⟩ : ∃ color, operation = .define name color := by
            cases operation <;> cases silent
            exact ⟨_, rfl⟩
          rw [Operation.nameList_perform_define, induction, ← take_eraseDups_concat]
          rfl

/-! ## The finished table -/

theorem nameOf_resolveAll (relationsOf : ElementId → List String)
    (inside : id.toNat < catalog.size) :
    catalog.nameList[id.toNat]? = some ((catalog.resolveAll relationsOf).nameOf id) := by
  obtain ⟨draft, name, -, stands, finished⟩ := exists_get_resolveAll relationsOf inside
  rw [ElementTable.nameOf, finished, nameList, Array.getElem?_toList, stands]
  rfl

/-- The finished table finds by a name what the catalog finds, and tells the name in turn. -/
theorem idOf?_resolveAll_iff (relationsOf : ElementId → List String) :
    (catalog.resolveAll relationsOf).idOf? name = some id ↔
      id.toNat < (catalog.resolveAll relationsOf).size ∧
        (catalog.resolveAll relationsOf).nameOf id = name := by
  have found : (catalog.resolveAll relationsOf).idOf? name = some id ↔
      catalog.nameList[id.toNat]? = some name := by
    rw [← idOf_eq_ok_iff_nameList, idOf?_resolveAll, idOf]
    cases catalog.names.find? name <;> simp
  rw [found, size_resolveAll]
  constructor
  · intro stands
    have inside : id.toNat < catalog.size := (List.getElem?_eq_some_iff.mp stands).1
    exact ⟨inside, Option.some.inj ((nameOf_resolveAll relationsOf inside).symm.trans stands)⟩
  · rintro ⟨inside, rfl⟩
    exact nameOf_resolveAll relationsOf inside

theorem names_resolveAll (catalog : Catalog) (relationsOf : ElementId → List String) :
    (catalog.resolveAll relationsOf).names = catalog.names.names := by
  apply Array.ext_getElem?
  intro place
  rw [ElementTable.names, Array.getElem?_map, getElem?_resolveAll]

/-- The names in the finished table are those by which an element is found. -/
theorem mem_names_resolveAll (relationsOf : ElementId → List String) :
    name ∈ (catalog.resolveAll relationsOf).names ↔
      ∃ id, (catalog.resolveAll relationsOf).idOf? name = some id := by
  rw [← Option.isSome_iff_exists, idOf?_resolveAll, Option.isSome_map, Roster.find?_isSome_iff,
    names_resolveAll, Array.mem_toList_iff]

/-- After any operations on a new catalog, the elements are `Empty` and the different names
declared, in the order of their first declarations.  A further declaration succeeds exactly if the
name is new and there are fewer elements than identifiers; the element then gets the number of
elements before it, and a declaration that fails changes nothing.  A name is found at the place
where it stands, and in the finished table names and identifiers are found by each other. -/
theorem identifiers_dense (history : List Operation) :
    let catalog := initial.after history
    catalog.nameList =
        ((emptyName :: history.filterMap Operation.name?).eraseDups).take maxElements ∧
      (∀ name color,
        (Succeeds (catalog.define name color) ↔
          name ∉ catalog.nameList ∧ catalog.size < maxElements) ∧
        (∀ id defined, catalog.define name color = .ok (id, defined) →
          id.toNat = catalog.size ∧ defined.nameList = catalog.nameList ++ [name]) ∧
        (¬Succeeds (catalog.define name color) →
          (Operation.define name color).perform catalog = catalog)) ∧
      (∀ name id, catalog.idOf name = .ok id ↔ catalog.nameList[id.toNat]? = some name) ∧
      ∀ relationsOf,
        let table := catalog.resolveAll relationsOf
        (∀ name, name ∈ table.names ↔ ∃ id, table.idOf? name = some id) ∧
          ∀ name id, table.idOf? name = some id ↔ id.toNat < table.size ∧ table.nameOf id = name :=
  ⟨nameList_after_initial history,
    fun _ _ => ⟨define_succeeds_iff, fun _ _ success => ⟨toNat_of_define success,
      names_define success⟩, perform_define_of_fails⟩,
    fun _ _ => idOf_eq_ok_iff_nameList,
    fun relationsOf => ⟨fun _ => mem_names_resolveAll relationsOf,
      fun _ _ => idOf?_resolveAll_iff relationsOf⟩⟩

/-- Sand and oil are declared, sand once more, and between the two `Empty` is. -/
def redeclaring : List Operation :=
  [.define "Sand" "#d8e090", .define "Empty" "#000000", .define "Oil" "#804000",
    .define "Sand" "#ffffff"]

theorem redeclaring_dense :
    let catalog := initial.after redeclaring
    catalog.nameList = ["Empty", "Sand", "Oil"] ∧
      catalog.idOf "Oil" = .ok ⟨2⟩ ∧
      ¬Succeeds (catalog.define "Sand" "#ffffff") ∧
      (Operation.define "Sand" "#ffffff").perform catalog = catalog ∧
      ∃ defined, catalog.define "Water" "#0000ff" = .ok (⟨3⟩, defined) ∧
        defined.nameList = ["Empty", "Sand", "Oil", "Water"] := by
  intro catalog
  obtain ⟨names, define, idOf, -⟩ := identifiers_dense redeclaring
  have three : catalog.nameList = ["Empty", "Sand", "Oil"] := names.trans (by decide)
  have size : catalog.size = 3 := congrArg List.length three
  have refused : ¬Succeeds (catalog.define "Sand" "#ffffff") := fun success =>
    ((define "Sand" "#ffffff").1.mp success).1 (three ▸ by decide)
  obtain ⟨⟨id, defined⟩, success⟩ : Succeeds (catalog.define "Water" "#0000ff") :=
    (define "Water" "#0000ff").1.mpr ⟨three ▸ by decide, size ▸ by decide⟩
  obtain ⟨number, more⟩ := (define "Water" "#0000ff").2.1 id defined success
  obtain rfl : id = ⟨3⟩ := ElementId.toNat_injective (number.trans size)
  exact ⟨three, (idOf "Oil" ⟨2⟩).mpr (three ▸ by decide), refused,
    (define "Sand" "#ffffff").2.2 refused, defined, success, more.trans (by rw [three]; rfl)⟩

end Catalog
end FallingSand
