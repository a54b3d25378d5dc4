import FallingSand.Proofs.FirstPlaces
import FallingSand.Proofs.Grid.Adjacency

/-!
# Neighborhoods in a window

Looking around from a site of a window finds the adjacent sites of the window, each of them once,
also where columns are so few that two directions lead to the same one.  Who is found from one site
finds it in turn.  A position stands for at most one site, which lies in the window and stands for
itself, and over joined edges any number of turns around the grid leads to the same site.
-/

namespace FallingSand

theorem Size.wrappedColumn_add_mul (size : Size) (x turns : Int) :
    size.wrappedColumn (x + turns * size.width) = size.wrappedColumn x := by
  have same : ((size.wrappedColumn (x + turns * size.width)).val : Int) =
      (size.wrappedColumn x).val := by
    rw [wrappedColumn_val, wrappedColumn_val, Int.add_mul_emod_self_right]
  exact Fin.ext (Int.ofNat.inj same)

namespace Window

variable {size : Size} {window : Window} {site other : Site size}

/-- The neighbors of a site are the adjacent sites in the rows of the window. -/
theorem mem_neighbors :
    other ∈ window.neighbors site.position ↔
      Adjacent window.edge site other ∧ window.rows.contains other.y = true := by
  constructor
  · intro listed
    obtain ⟨⟨offset, -, found⟩, -⟩ := mem_around.mp listed
    exact ⟨adjacent_of_mem_around (fun _ given => given) listed, contains_of_resolve found⟩
  · rintro ⟨adjacent, inside⟩
    exact mem_around.mpr ⟨exists_offset_of_adjacent adjacent inside, adjacent.1.symm⟩

theorem mem_neighbors_comm (here : window.rows.contains site.y = true)
    (there : window.rows.contains other.y = true) :
    other ∈ window.neighbors site.position ↔ site ∈ window.neighbors other.position := by
  rw [mem_neighbors, mem_neighbors]
  exact ⟨fun found => ⟨found.1.symm, here⟩, fun found => ⟨found.1.symm, there⟩⟩

/-- The site that a position stands for stands for itself. -/
theorem resolve_resolve (window : Window) (position : Position) :
    (window.resolve position).bind (fun site : Site size => window.resolve site.position) =
      (window.resolve position : Option (Site size)) := by
  cases found : (window.resolve position : Option (Site size)) with
  | none => rfl
  | some site => exact resolve_position window (contains_of_resolve found)

theorem resolve_add_mul (joined : window.edge = .wrap) (x y turns : Int) :
    (window.resolve ⟨x + turns * size.width, y⟩ : Option (Site size)) =
      window.resolve ⟨x, y⟩ := by
  have column : window.column? size (x + turns * size.width) = window.column? size x := by
    rw [column?, column?, joined]
    exact congrArg some (size.wrappedColumn_add_mul x turns)
  simp only [resolve, column]

/-- A site of a window finds the adjacent sites of the window and no others, each of them once, and
is found by them in turn.  Every position stands for a site of the window or for none, sites stand
for themselves, and over joined edges whole turns around the grid make no difference. -/
theorem neighborhood_laws (size : Size) (window : Window) :
    (∀ site : Site size, window.rows.contains site.y = true →
      (window.neighbors site.position : List (Site size)).Nodup ∧
      site ∉ window.neighbors site.position ∧
      (∀ other : Site size, other ∈ window.neighbors site.position ↔
        Adjacent window.edge site other ∧ window.rows.contains other.y = true) ∧
      (∀ other : Site size, window.rows.contains other.y = true →
        (other ∈ window.neighbors site.position ↔ site ∈ window.neighbors other.position)) ∧
      window.resolve site.position = some site) ∧
    (∀ position,
      (∀ site : Site size, window.resolve position = some site →
        window.rows.contains site.y = true) ∧
      (window.resolve position).bind (fun site : Site size => window.resolve site.position) =
        (window.resolve position : Option (Site size))) ∧
    (window.edge = .wrap → ∀ x y turns : Int,
      (window.resolve ⟨x + turns * size.width, y⟩ : Option (Site size)) =
        window.resolve ⟨x, y⟩) := by
  refine ⟨fun site inside => ⟨nodup_eraseDups _, fun found => ?_, fun other => mem_neighbors,
      fun other there => mem_neighbors_comm inside there, resolve_position window inside⟩,
    fun position => ⟨fun site => contains_of_resolve, resolve_resolve window position⟩,
    fun joined => resolve_add_mul joined⟩
  exact (mem_neighbors.mp found).1.1 rfl

/-- Rows one to three of a grid whose edges are joined. -/
def belt : Window where
  edge := .wrap
  rows := ⟨1, 4⟩

/-- With two columns, a site has the other site of its row on both sides. -/
theorem belt_laws :
    let narrow : Size := ⟨2, 5, by decide, by decide, by decide⟩
    let left : Site narrow := ⟨⟨0, by decide⟩, ⟨1, by decide⟩⟩
    let right : Site narrow := ⟨⟨1, by decide⟩, ⟨1, by decide⟩⟩
    let above : Site narrow := ⟨⟨0, by decide⟩, ⟨0, by decide⟩⟩
    belt.rows.contains left.y = true ∧ belt.rows.contains right.y = true ∧ belt.edge = .wrap ∧
      (belt.neighbors left.position : List (Site narrow)).Nodup ∧
      right ∈ belt.neighbors left.position ∧ left ∈ belt.neighbors right.position ∧
      above ∉ belt.neighbors left.position ∧
      belt.resolve ⟨-7, 1⟩ = some right := by
  intro narrow left right above
  obtain ⟨around, -, turns⟩ := neighborhood_laws narrow belt
  obtain ⟨distinct, -, found, inTurn, -⟩ := around left (by decide)
  have beside : right ∈ belt.neighbors left.position :=
    (found right).mpr ⟨⟨by decide, Or.inr ⟨rfl, Or.inl rfl⟩⟩, by decide⟩
  have shown : belt.resolve right.position = some right :=
    (around right (by decide)).2.2.2.2
  exact ⟨by decide, by decide, rfl, distinct, beside, (inTurn right (by decide)).mp beside,
    fun listed => absurd ((found above).mp listed).2 (by decide),
    (turns rfl (-7) 1 4).symm.trans shown⟩

end Window
end FallingSand
