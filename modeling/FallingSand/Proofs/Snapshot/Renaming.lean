import FallingSand.Proofs.Mod.Identifiers
import FallingSand.Proofs.Snapshot.Loading

/-!
# Loading under another mod

A snapshot tells its elements by name, so any mod that has the names of the palette can load it, if
it is as large as it says and its cells stay within the palette.  What stands at a position then has
the name there that the snapshot gives it, whatever its number is in the mod.
-/

namespace FallingSand

variable {table : ElementTable} {snapshot : Snapshot} {grid : Grid}

/-- A fresh cell has no marks. -/
theorem Cell.marks_ofElement (element : ElementId) : (ofElement element).marks = 0 := by
  simp [marks, ofElement]

namespace Size

variable {width height : Nat}

theorem ofNats?_eq_some {size : Size} (extent : ofNats? width height = some size) :
    size.width = width ∧ size.height = height := by
  rw [ofNats?] at extent
  split at extent
  · cases extent
    exact ⟨rfl, rfl⟩
  · cases extent

theorem ofNats?_ne_none (valid : 0 < width ∧ 0 < height ∧ width * height ≤ maxArea) :
    ofNats? width height ≠ none := by
  rw [ofNats?, dif_pos valid]
  exact Option.some_ne_none _

end Size

namespace Snapshot

/-- A table of elements has all that it takes to load the snapshot, and the snapshot is complete. -/
structure Loadable (snapshot : Snapshot) (table : ElementTable) : Prop where
  /-- There is a column. -/
  width_pos : 0 < snapshot.width.toNat
  /-- There is a row. -/
  height_pos : 0 < snapshot.height.toNat
  /-- There are not too many cells. -/
  area_le : snapshot.width.toNat * snapshot.height.toNat ≤ maxArea
  /-- There is a number for every cell. -/
  full : snapshot.cells.size = snapshot.width.toNat * snapshot.height.toNat
  /-- Each name of the palette is that of an element. -/
  known : ∀ name ∈ snapshot.palette, name ∈ table.names
  /-- Each number stands for a name of the palette. -/
  inside : ∀ place ∈ snapshot.cells, place.toNat < snapshot.palette.size

theorem elements_succeeds_iff :
    Succeeds (snapshot.elements table) ↔
      ∀ name ∈ snapshot.palette, ∃ id, table.idOf? name = some id := by
  rw [elements, succeeds_mapM_array_iff]
  refine forall₂_congr fun name _ => ?_
  cases table.idOf? name with
  | none => simp [not_succeeds_error]
  | some id => simp [succeeds_ok]

/-- A place of the palette stands for the element that its name is found to be. -/
theorem getElem?_elements {elements : Array ElementId}
    (found : snapshot.elements table = .ok elements) (place : Nat) :
    elements[place]? = (snapshot.palette[place]?).bind table.idOf? := by
  obtain ⟨same, each⟩ := mapM_array_eq_ok_iff.mp found
  by_cases inside : place < snapshot.palette.size
  · have here := each place inside
    rw [Array.getElem?_eq_getElem inside, Array.getElem?_eq_getElem (same ▸ inside),
      Option.bind_some]
    split at here
    · rename_i id known
      cases here
      exact known.symm
    · cases here
  · rw [Array.getElem?_eq_none (Nat.not_lt.mp inside),
      Array.getElem?_eq_none (same ▸ Nat.not_lt.mp inside), Option.bind_none]

theorem elementOf_eq_ok_iff {elements : Array ElementId} {place : UInt16} {id : ElementId} :
    elementOf elements place = .ok id ↔ elements[place.toNat]? = some id := by
  rw [elementOf]
  split <;> simp_all

theorem elementOf_succeeds_iff {elements : Array ElementId}
    (found : snapshot.elements table = .ok elements) {place : UInt16} :
    Succeeds (elementOf elements place) ↔ place.toNat < snapshot.palette.size := by
  obtain ⟨same, -⟩ := mapM_array_eq_ok_iff.mp found
  simp only [Succeeds, elementOf_eq_ok_iff]
  rw [← Option.isSome_iff_exists, isSome_getElem?, same]

end Snapshot

namespace Grid

theorem ofSnapshot_succeeds_iff
    (listed : ∀ name, name ∈ table.names ↔ ∃ id, table.idOf? name = some id) :
    Succeeds (ofSnapshot table snapshot) ↔ snapshot.Loadable table := by
  have known : (∀ name ∈ snapshot.palette, name ∈ table.names) ↔
      Succeeds (snapshot.elements table) := by
    simp only [Snapshot.elements_succeeds_iff, listed]
  cases extent : Size.ofNats? snapshot.width.toNat snapshot.height.toNat with
  | none =>
      refine iff_of_false ?_ fun loadable => ?_
      · rw [ofSnapshot, extent]
        exact not_succeeds_error _
      · exact Size.ofNats?_ne_none
          ⟨loadable.width_pos, loadable.height_pos, loadable.area_le⟩ extent
  | some size =>
      obtain ⟨width, height⟩ := Size.ofNats?_eq_some extent
      by_cases full : snapshot.cells.size = size.area
      · have succeeds : Succeeds (ofSnapshot table snapshot) ↔
            ∃ elements, snapshot.elements table = .ok elements ∧
              ∀ place ∈ snapshot.cells, Succeeds (Snapshot.elementOf elements place) := by
          rw [ofSnapshot, extent]
          dsimp only
          rw [dif_pos full, succeeds_bind_iff]
          refine exists_congr fun elements => and_congr_right fun _ => ?_
          exact (succeeds_then_iff fun _ => succeeds_ok _).trans succeeds_mapM_vector_iff
        rw [succeeds]
        constructor
        · rintro ⟨elements, palette, numbers⟩
          constructor
          · exact width ▸ size.width_pos
          · exact height ▸ size.height_pos
          · exact width ▸ height ▸ size.area_le
          · rw [full, Size.area, width, height]
          · exact known.mpr ⟨elements, palette⟩
          · exact fun place given =>
              (Snapshot.elementOf_succeeds_iff palette).mp (numbers place given)
        · intro loadable
          obtain ⟨elements, palette⟩ := known.mp loadable.known
          exact ⟨elements, palette, fun place given =>
            (Snapshot.elementOf_succeeds_iff palette).mpr (loadable.inside place given)⟩
      · refine iff_of_false ?_ fun loadable => full ?_
        · rw [ofSnapshot, extent]
          dsimp only
          rw [dif_neg full]
          exact not_succeeds_error _
        · rw [loadable.full, Size.area, width, height]

/-- What is loaded holds at every site the element that the snapshot names there. -/
theorem stands_of_ofSnapshot (loaded : ofSnapshot table snapshot = .ok grid) :
    grid.size.width = snapshot.width.toNat ∧ grid.size.height = snapshot.height.toNat ∧
      grid.tick = snapshot.tick ∧ snapshot.cells.size = grid.size.area ∧
      ∀ site : Site grid.size, ∃ place name id,
        snapshot.cells[site.number.val]? = some place ∧
        snapshot.palette[place.toNat]? = some name ∧ table.idOf? name = some id ∧
        grid.board.cell site = Cell.ofElement id := by
  rw [ofSnapshot] at loaded
  dsimp only at loaded
  split at loaded
  · cases loaded
  · rename_i size extent
    split at loaded
    · rename_i full
      obtain ⟨elements, palette, loaded⟩ := bind_eq_ok_iff.mp loaded
      obtain ⟨cells, numbers, loaded⟩ := bind_eq_ok_iff.mp loaded
      cases loaded
      obtain ⟨width, height⟩ := Size.ofNats?_eq_some extent
      refine ⟨width, height, rfl, full, fun site => ?_⟩
      have inside : site.number.val < snapshot.cells.size := by
        rw [full]
        exact site.number.isLt
      have here := mapM_vector_eq_ok_iff.mp numbers site.number.val site.number.isLt
      rw [Snapshot.elementOf_eq_ok_iff, Snapshot.getElem?_elements palette] at here
      obtain ⟨name, stands, found⟩ := Option.bind_eq_some_iff.mp here
      refine ⟨snapshot.cells[site.number.val], name, cells[site.number],
        Array.getElem?_eq_getElem inside, stands, found, ?_⟩
      simp [Board.cell]
    · cases loaded

end Grid

namespace Declarations

variable {declarations : Declarations} {rules : RuleSet}

/-- The elements of a compiled mod are the finished table of a catalog. -/
theorem exists_catalog (compiled : declarations.compile = .ok rules) :
    ∃ (catalog : Catalog) (relationsOf : ElementId → List String),
      rules.elements = catalog.resolveAll relationsOf ∧
        catalog.nameList = (Vocabulary.initial.extend declarations.entries).elements := by
  obtain ⟨declared, directives, gathered, -, -, rfl⟩ := compile_eq_ok_iff.mp compiled
  refine ⟨_, _, rfl, ?_⟩
  rw [Catalog.nameList, Consequence.names_foldl_addTo]
  exact (Declared.lists_of_gathered gathered).elements

/-- A compiled mod has the elements that it names, and `Empty`. -/
theorem mem_names_of_compile (compiled : declarations.compile = .ok rules) {name : String} :
    name ∈ rules.elements.names ↔
      name ∈ (Vocabulary.initial.extend declarations.entries).elements := by
  obtain ⟨catalog, relationsOf, elements, names⟩ := exists_catalog compiled
  rw [elements, Catalog.names_resolveAll, ← names, Catalog.nameList, Array.mem_toList_iff]

end Declarations

namespace Snapshot

/-- The name at a column and a row is that of the cell whose number is counted row by row. -/
theorem nameAt?_of_lt {x y : Nat} (right : x < snapshot.width.toNat)
    (below : y < snapshot.height.toNat) :
    snapshot.nameAt? x y =
      (snapshot.cells[y * snapshot.width.toNat + x]?).bind fun place =>
        snapshot.palette[place.toNat]? := by
  rw [nameAt?, if_neg (by omega)]

end Snapshot

/-- With a compiled mod, a snapshot can be loaded exactly if it is complete, all its names are names
of elements and all its cells are within the palette.  What is loaded has the tick of the snapshot,
and at every position an element with the name that the snapshot gives the position, without
marks. -/
theorem ofSnapshot_keeps_names {declarations : Declarations} {rules : RuleSet}
    (compiled : declarations.compile = .ok rules) (snapshot : Snapshot) :
    let table := rules.elements
    (Succeeds (Grid.ofSnapshot table snapshot) ↔ snapshot.Loadable table) ∧
    ∀ grid, Grid.ofSnapshot table snapshot = .ok grid →
      grid.size.width = snapshot.width.toNat ∧ grid.size.height = snapshot.height.toNat ∧
      grid.tick = snapshot.tick ∧
      (∀ x y : Nat,
        (grid.cell? ⟨x, y⟩).map (fun cell => table.nameOf cell.element) = snapshot.nameAt? x y) ∧
      ∀ x y : Nat, x < snapshot.width.toNat → y < snapshot.height.toNat →
        ∃ cell place, grid.cell? ⟨x, y⟩ = some cell ∧ cell.marks = 0 ∧
          snapshot.cells[y * snapshot.width.toNat + x]? = some place ∧
          snapshot.palette[place.toNat]? = some (table.nameOf cell.element) := by
  intro table
  obtain ⟨catalog, relationsOf, elements, -⟩ := Declarations.exists_catalog compiled
  replace elements : table = catalog.resolveAll relationsOf := elements
  clear_value table
  subst elements
  refine ⟨Grid.ofSnapshot_succeeds_iff fun name => Catalog.mem_names_resolveAll relationsOf,
    fun grid loaded => ?_⟩
  obtain ⟨width, height, tick, -, stands⟩ := Grid.stands_of_ofSnapshot loaded
  have inside (x y : Nat) (right : x < snapshot.width.toNat) (below : y < snapshot.height.toNat) :
      ∃ cell place, grid.cell? ⟨x, y⟩ = some cell ∧ cell.marks = 0 ∧
        snapshot.cells[y * snapshot.width.toNat + x]? = some place ∧
        snapshot.palette[place.toNat]? =
          some ((catalog.resolveAll relationsOf).nameOf cell.element) := by
    let site : Site grid.size := ⟨⟨x, width ▸ right⟩, ⟨y, height ▸ below⟩⟩
    obtain ⟨place, name, id, numbered, named, found, cell⟩ := stands site
    obtain ⟨-, known⟩ := (Catalog.idOf?_resolveAll_iff relationsOf).mp found
    refine ⟨Cell.ofElement id, place, ?_, Cell.marks_ofElement id, ?_, ?_⟩
    · have position : grid.size.site? ⟨x, y⟩ = some site := Size.site?_eq_some_iff.mpr rfl
      rw [Grid.cell?, position, Option.map_some, cell]
    · rw [← width]
      exact numbered
    · rw [named, ← known]
      rfl
  refine ⟨width, height, tick, fun x y => ?_, inside⟩
  by_cases within : x < snapshot.width.toNat ∧ y < snapshot.height.toNat
  · obtain ⟨cell, place, stands, -, numbered, named⟩ := inside x y within.1 within.2
    rw [stands, Snapshot.nameAt?_of_lt within.1 within.2, numbered, Option.bind_some, named,
      Option.map_some]
  · have outside : grid.size.site? ⟨x, y⟩ = none := by
      rw [Option.eq_none_iff_forall_ne_some]
      intro site found
      have onGrid := Size.exists_site_iff.mp ⟨site, Size.site?_eq_some_iff.mp found⟩
      dsimp only at onGrid
      omega
    rw [Grid.cell?, outside, Option.map_none, Option.map_none, Snapshot.nameAt?, if_pos (by omega)]

/-- Salt and acid, numbered otherwise than in the mod, with two numbers for salt. -/
def salted : Snapshot where
  width := 2
  height := 2
  tick := 40
  palette := #["Salt", "Empty", "Acid", "Salt"]
  cells := #[0, 1, 3, 2]

theorem loadable_salted {rules : RuleSet} (compiled : dissolving.compile = .ok rules) :
    salted.Loadable rules.elements := by
  refine ⟨by decide, by decide, by decide, by decide, fun name listed => ?_, by simp [salted]⟩
  rw [Declarations.mem_names_of_compile compiled]
  revert name
  decide

theorem loads_salted {rules : RuleSet} (compiled : dissolving.compile = .ok rules) :
    Succeeds (Grid.ofSnapshot rules.elements salted) := by
  have loadable := loadable_salted compiled
  obtain ⟨catalog, relationsOf, elements, -⟩ := Declarations.exists_catalog compiled
  rw [elements] at loadable ⊢
  exact (Grid.ofSnapshot_succeeds_iff fun name => Catalog.mem_names_resolveAll relationsOf).mpr
    loadable

theorem salted_keeps_names : ∃ rules grid, dissolving.compile = .ok rules ∧
    Grid.ofSnapshot rules.elements salted = .ok grid ∧ grid.tick = 40 ∧
    ∀ x y : Nat,
      (grid.cell? ⟨x, y⟩).map (fun cell => rules.elements.nameOf cell.element) =
        salted.nameAt? x y := by
  obtain ⟨rules, compiled⟩ := compiles_dissolving
  obtain ⟨loads, keeps⟩ := ofSnapshot_keeps_names compiled salted
  obtain ⟨grid, loaded⟩ := loads.mpr (loadable_salted compiled)
  obtain ⟨-, -, tick, names, -⟩ := keeps grid loaded
  exact ⟨rules, grid, compiled, loaded, tick, names⟩

end FallingSand
