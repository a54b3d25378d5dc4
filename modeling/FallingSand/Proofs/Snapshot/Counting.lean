import FallingSand.Proofs.Snapshot.Renaming

/-!
# Counting in a snapshot

A snapshot counts the cells that hold the number at which a name stands first in its palette.  These
are all cells that the name is given to, unless the name stands in the palette once more and a cell
refers to it there.  The grid that is loaded counts by element, and so counts them all.
-/

namespace FallingSand

namespace Snapshot

variable {snapshot : Snapshot} {name : String} {size : Size}

/-- The sites of a size to which a snapshot gives a name. -/
def positionsOf (snapshot : Snapshot) (size : Size) (name : String) : Finset (Site size) :=
  Finset.univ.filter fun site => snapshot.nameAt? site.x site.y = some name

theorem mem_positionsOf {site : Site size} :
    site ∈ snapshot.positionsOf size name ↔ snapshot.nameAt? site.x site.y = some name := by
  rw [positionsOf, Finset.mem_filter, and_iff_right (Finset.mem_univ site)]

/-- A name stands at its first place in the palette. -/
theorem getElem?_of_findIdx? {place : Nat}
    (first : snapshot.palette.findIdx? (· == name) = some place) :
    snapshot.palette[place]? = some name := by
  obtain ⟨inside, same, -⟩ := Array.findIdx?_eq_some_iff_getElem.mp first
  rw [Array.getElem?_eq_getElem inside, eq_of_beq same]

theorem count_eq_countP (snapshot : Snapshot) (name : String) :
    snapshot.count name = snapshot.cells.countP fun place =>
      snapshot.palette.findIdx? (· == name) = some place.toNat := by
  rw [count]
  cases snapshot.palette.findIdx? (· == name) with
  | none => simp
  | some first =>
      refine congrArg (Array.countP · snapshot.cells) (funext fun place => ?_)
      simp [Bool.beq_eq_decide_eq, eq_comm]

section Full

variable (width : size.width = snapshot.width.toNat) (height : size.height = snapshot.height.toNat)
  (full : snapshot.cells.size = size.area)

include width height

theorem nameAt?_site (site : Site size) :
    snapshot.nameAt? site.x site.y =
      snapshot.palette[((Vector.mk snapshot.cells full).get site.number).toNat]? := by
  have inside : site.y.val * snapshot.width.toNat + site.x.val < snapshot.cells.size := by
    rw [full, ← width]
    exact site.number.isLt
  rw [nameAt?_of_lt (width ▸ site.x.isLt) (height ▸ site.y.isLt), Array.getElem?_eq_getElem inside,
    Option.bind_some]
  simp [Vector.get, width]

/-- As many cells are counted as sites have the name by its first place. -/
theorem count_eq_card :
    snapshot.count name =
      ((snapshot.positionsOf size name).filter fun site => snapshot.palette.findIdx? (· == name) =
        some ((Vector.mk snapshot.cells full).get site.number).toNat).card := by
  rw [count_eq_countP, size.countP_eq_card (Vector.mk snapshot.cells full)]
  congr 1
  ext site
  simp only [Finset.mem_filter, Finset.mem_univ, true_and, mem_positionsOf, decide_eq_true_eq]
  rw [nameAt?_site width height full]
  exact ⟨fun first => ⟨getElem?_of_findIdx? first, first⟩, And.right⟩

include full in
/-- The count misses no site exactly if every cell with the name holds its first place. -/
theorem count_eq_card_iff :
    snapshot.count name = (snapshot.positionsOf size name).card ↔
      ∀ place ∈ snapshot.cells, snapshot.palette[place.toNat]? = some name →
        snapshot.palette.findIdx? (· == name) = some place.toNat := by
  rw [count_eq_card width height full, Finset.card_filter_eq_iff]
  constructor
  · intro firsts place given stands
    obtain ⟨number, inside, rfl⟩ := Array.mem_iff_getElem.mp given
    obtain ⟨site, numbered⟩ := (Site.number_bijective size).2 ⟨number, full ▸ inside⟩
    have listed : site ∈ snapshot.positionsOf size name := by
      rw [mem_positionsOf, nameAt?_site width height full]
      simpa [Vector.get, numbered] using stands
    simpa [Vector.get, numbered] using firsts site listed
  · intro firsts site listed
    rw [mem_positionsOf, nameAt?_site width height full] at listed
    exact firsts _ (Array.getElem_mem _) listed

end Full

/-- In a palette without repetitions, a name stands only at its first place. -/
theorem findIdx?_of_nodup (distinct : snapshot.palette.toList.Nodup) {place : Nat}
    (stands : snapshot.palette[place]? = some name) :
    snapshot.palette.findIdx? (· == name) = some place := by
  have listed : (snapshot.palette.findIdx? (· == name)).isSome = true := by
    rw [Array.findIdx?_isSome, Array.any_eq_true']
    exact ⟨name, Array.mem_of_getElem? stands, by simp⟩
  obtain ⟨first, found⟩ := Option.isSome_iff_exists.mp listed
  have same := (getElem?_of_findIdx? found).trans stands.symm
  rw [← Array.getElem?_toList, ← Array.getElem?_toList] at same
  have inside : first < snapshot.palette.toList.length :=
    (Array.findIdx?_eq_some_iff_getElem.mp found).1
  rw [found, (List.getElem?_inj inside distinct).mp same]

end Snapshot

/-- The loaded grid has as many cells with an element as there are positions to which the snapshot
gives the name of the element.  The snapshot counts no more, and exactly as many if and only if all
its cells with that name hold the first place of the name in the palette, as they do in a palette
without repetitions. -/
theorem loaded_counts {catalog : Catalog} {relationsOf : ElementId → List String}
    {snapshot : Snapshot} {grid : Grid}
    (loaded : Grid.ofSnapshot (catalog.resolveAll relationsOf) snapshot = .ok grid)
    (name : String) :
    let positions := snapshot.positionsOf grid.size name
    (∀ id, (catalog.resolveAll relationsOf).idOf? name = some id →
      grid.count id = positions.card) ∧
    snapshot.count name ≤ positions.card ∧
    (snapshot.count name = positions.card ↔
      ∀ place ∈ snapshot.cells, snapshot.palette[place.toNat]? = some name →
        snapshot.palette.findIdx? (· == name) = some place.toNat) ∧
    (snapshot.palette.toList.Nodup → snapshot.count name = positions.card) := by
  intro positions
  obtain ⟨width, height, -, full, stands⟩ := Grid.stands_of_ofSnapshot loaded
  have equal : snapshot.count name = positions.card ↔
      ∀ place ∈ snapshot.cells, snapshot.palette[place.toNat]? = some name →
        snapshot.palette.findIdx? (· == name) = some place.toNat :=
    Snapshot.count_eq_card_iff width height full
  refine ⟨fun id known => ?_, ?_, equal, fun distinct => equal.mpr fun place _ =>
    Snapshot.findIdx?_of_nodup distinct⟩
  · rw [Grid.count, Board.count, grid.size.countP_eq_card]
    congr 1
    ext site
    obtain ⟨place, own, id', numbered, named, found, cell⟩ := stands site
    have here : snapshot.nameAt? site.x site.y = some own := by
      rw [Snapshot.nameAt?_of_lt (width ▸ site.x.isLt) (height ▸ site.y.isLt), ← width]
      exact Option.bind_eq_some_iff.mpr ⟨place, numbered, named⟩
    have element : (grid.board.cells.get site.number).element = id' := congrArg Cell.element cell
    rw [Snapshot.mem_positionsOf, here, Finset.mem_filter, element, Option.some.injEq, beq_iff_eq,
      and_iff_right (Finset.mem_univ site)]
    constructor
    · rintro rfl
      obtain ⟨-, rfl⟩ := (Catalog.idOf?_resolveAll_iff relationsOf).mp found
      exact ((Catalog.idOf?_resolveAll_iff relationsOf).mp known).2
    · rintro rfl
      exact Option.some.inj (found.symm.trans known)
  · rw [Snapshot.count_eq_card width height full]
    exact Finset.card_filter_le _ _

theorem salted_places : salted.palette.findIdx? (· == "Salt") = some 0 ∧
    salted.palette.findIdx? (· == "Acid") = some 2 :=
  ⟨by cbv, by cbv⟩

/-- Of the salted cells one is missed, since its number is the second one for salt. -/
theorem salted_counts : ∃ rules grid, dissolving.compile = .ok rules ∧
    Grid.ofSnapshot rules.elements salted = .ok grid ∧
    (∀ id, rules.elements.idOf? "Salt" = some id → salted.count "Salt" < grid.count id) ∧
    ∀ id, rules.elements.idOf? "Acid" = some id → salted.count "Acid" = grid.count id := by
  obtain ⟨rules, compiled⟩ := compiles_dissolving
  obtain ⟨grid, loaded⟩ := loads_salted compiled
  obtain ⟨catalog, relationsOf, elements, -⟩ := Declarations.exists_catalog compiled
  refine ⟨rules, grid, compiled, loaded, fun id salt => ?_, fun id acid => ?_⟩
  · rw [elements] at loaded salt
    obtain ⟨all, most, exactly, -⟩ := loaded_counts loaded "Salt"
    rw [all id salt]
    refine lt_of_le_of_ne most fun same => ?_
    have firsts := exactly.mp same
    rw [salted_places.1] at firsts
    simp [salted] at firsts
  · rw [elements] at loaded acid
    obtain ⟨all, -, exactly, -⟩ := loaded_counts loaded "Acid"
    rw [all id acid]
    refine exactly.mpr ?_
    rw [salted_places.2]
    simp [salted]

/-- A snapshot can give a name to more cells than it counts. -/
theorem salted_miscounts : ¬∀ (declarations : Declarations) (rules : RuleSet) (snapshot : Snapshot)
    (grid : Grid), declarations.compile = .ok rules →
      Grid.ofSnapshot rules.elements snapshot = .ok grid →
      ∀ name, snapshot.count name = (snapshot.positionsOf grid.size name).card := by
  intro always
  obtain ⟨rules, compiled⟩ := compiles_dissolving
  obtain ⟨grid, loaded⟩ := loads_salted compiled
  obtain ⟨width, height, -, full, -⟩ := Grid.stands_of_ofSnapshot loaded
  have same := always dissolving rules salted grid compiled loaded "Salt"
  rw [Snapshot.count_eq_card_iff width height full, salted_places.1] at same
  simp [salted] at same

end FallingSand
