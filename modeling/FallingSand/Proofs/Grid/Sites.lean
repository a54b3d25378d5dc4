import FallingSand.Grid.Board
import Mathlib.Data.Fintype.EquivFin
import Mathlib.Data.Fintype.Prod

/-!
# All sites of a size

The sites of a size are the positions whose coordinates are small enough.  There are as many as the
area says, each with a number of its own, so that what is counted along the cells of a board is
counted over its sites.
-/

namespace FallingSand

variable {size : Size}

instance (size : Size) : Fintype (Site size) :=
  Fintype.ofEquiv (Fin size.width × Fin size.height)
    { toFun := fun pair => ⟨pair.1, pair.2⟩
      invFun := fun site => (site.x, site.y)
      left_inv := fun _ => rfl
      right_inv := fun _ => rfl }

theorem Size.card_site (size : Size) : Fintype.card (Site size) = size.area := by
  rw [Fintype.ofEquiv_card, Fintype.card_prod, Fintype.card_fin, Fintype.card_fin, area]

namespace Size

variable {position : Position} {site : Site size}

theorem exists_site_iff :
    (∃ site : Site size, site.position = position) ↔
      (0 ≤ position.x ∧ position.x < size.width) ∧ 0 ≤ position.y ∧ position.y < size.height := by
  constructor
  · rintro ⟨⟨x, y⟩, rfl⟩
    simp [Site.position]
  · obtain ⟨x, y⟩ := position
    rintro ⟨⟨left, right⟩, above, below⟩
    dsimp only at left right above below
    refine ⟨⟨⟨x.toNat, by omega⟩, ⟨y.toNat, by omega⟩⟩, ?_⟩
    simp [Site.position, left, above]

theorem site?_eq_some_iff : size.site? position = some site ↔ site.position = position := by
  obtain ⟨x, y⟩ := position
  obtain ⟨⟨column, right⟩, ⟨row, below⟩⟩ := site
  simp only [site?, Option.bind_eq_bind, Option.bind_eq_some_iff, Option.pure_def,
    Option.some.injEq, Site.position, Position.mk.injEq, Site.mk.injEq, column?, row?]
  constructor
  · rintro ⟨_, found, _, found', rfl, rfl⟩
    split at found <;> cases found
    split at found' <;> cases found'
    omega
  · rintro ⟨rfl, rfl⟩
    exact ⟨⟨column, right⟩, by simp [right], ⟨row, below⟩, by simp [below], rfl, rfl⟩

end Size

theorem Site.number_bijective (size : Size) :
    Function.Bijective (Site.number : Site size → Fin size.area) := by
  rw [Fintype.bijective_iff_injective_and_card]
  exact ⟨fun _ _ => Site.number_injective, by rw [size.card_site, Fintype.card_fin]⟩

/-- What is kept for every number of a site, in any order. -/
theorem Size.map_number_univ {α : Type} (size : Size) (items : Vector α size.area) :
    ((Finset.univ : Finset (Site size)).val.map fun site => items.get site.number) =
      items.toList := by
  have numbers := Multiset.map_univ_val_equiv (Equiv.ofBijective _ (Site.number_bijective size))
  calc
    ((Finset.univ : Finset (Site size)).val.map fun site => items.get site.number) =
        ((Finset.univ : Finset (Site size)).val.map Site.number).map items.get := by
      rw [Multiset.map_map]
      rfl
    _ = (List.ofFn items.get : Multiset α) := by
      rw [← Fin.univ_val_map]
      exact congrArg _ numbers
    _ = items.toList := by
      rw [← Vector.toList_ofFn]
      exact congrArg _ (congrArg _ Vector.ofFn_getElem)

/-- What is counted along the numbers is counted over the sites. -/
theorem Size.countP_eq_card {α : Type} (size : Size) (items : Vector α size.area) (p : α → Bool) :
    items.toArray.countP p =
      (Finset.univ.filter fun site : Site size => p (items.get site.number) = true).card := by
  calc
    items.toArray.countP p = Multiset.countP (fun item => p item = true) items.toList := by
      rw [Multiset.coe_countP, ← Array.countP_toList]
      simp
    _ = _ := by
      rw [← size.map_number_univ items, Multiset.countP_map]
      rfl

theorem Size.nodup_sites (size : Size) (rows : Rows) : (size.sites rows).Nodup := by
  rw [sites, List.nodup_flatMap]
  constructor
  · intro y _
    exact (List.nodup_finRange _).map fun first second same => (Site.mk.inj same).1
  · refine ((List.nodup_finRange _).filter _).imp fun {first second} different site here there => ?_
    obtain ⟨x, -, rfl⟩ := List.mem_map.mp here
    obtain ⟨other, -, same⟩ := List.mem_map.mp there
    exact different (Site.mk.inj same).2.symm

namespace Board

/-- What holds at every site holds at every place. -/
theorem forall_cells {board : Board size} {P : Cell → Prop} (holds : ∀ site, P (board.cell site))
    (place : Nat) (inside : place < size.area) : P board.cells[place] := by
  obtain ⟨site, numbered⟩ := (Site.number_bijective size).2 ⟨place, inside⟩
  simpa [Board.cell, numbered] using holds site

theorem ext_cell {board other : Board size} (same : ∀ site, board.cell site = other.cell site) :
    board = other := by
  obtain ⟨cells⟩ := board
  obtain ⟨others⟩ := other
  congr 1
  ext place inside
  obtain ⟨site, numbered⟩ := (Site.number_bijective size).2 ⟨place, inside⟩
  have equal := congrArg some (same site)
  simpa [Board.cell, numbered] using equal

/-- The cells of a board, in any order. -/
theorem map_cell_univ (board : Board size) :
    (Finset.univ : Finset (Site size)).val.map board.cell = board.cells.toList :=
  size.map_number_univ board.cells

/-- The elements at some sites, each as often as it stands there. -/
def elementsIn (board : Board size) (sites : Finset (Site size)) : Multiset ElementId :=
  sites.val.map fun site => (board.cell site).element

theorem count_eq (board : Board size) (element : ElementId) :
    board.count element = (board.elementsIn Finset.univ).count element := by
  have elements : board.elementsIn Finset.univ =
      (Multiset.map board.cell Finset.univ.val).map Cell.element := by
    rw [elementsIn, Multiset.map_map]
    rfl
  rw [elements, map_cell_univ, Multiset.map_coe, Multiset.coe_count, List.count_eq_countP,
    List.countP_map, count, ← Array.countP_toList]
  rfl

end Board
end FallingSand
