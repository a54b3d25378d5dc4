import FallingSand.Proofs.Grid.Sites
import FallingSand.Proofs.Success
import FallingSand.Scene

/-!
# Painting

An operation of painting has an area: a position, a rectangle or a row.  If all of the area is on
the grid, it puts a fresh cell at every site of the area; if not, it fails, and two corners are
enough to tell.  Of several operations the last one that covers a site decides what stands there.
When one of them fails, the grid stays as those before it have painted it.
-/

namespace FallingSand

/-! ## Sites of an area -/

namespace Grid

variable {grid painted : Grid} {position corner : Position} {element : ElementId}

theorem site_eq_ok_iff {site : Site grid.size} :
    grid.site position = .ok site ↔ site.position = position := by
  rw [Grid.site, ← Size.site?_eq_some_iff]
  split <;> simp_all

/-- Only which sites are given matters when they are filled. -/
theorem fill_congr {sites others : List (Site grid.size)}
    (same : ∀ site, site ∈ sites ↔ site ∈ others) :
    grid.fill sites element = grid.fill others element := by
  have boards : grid.board.fill sites (Cell.ofElement element) =
      grid.board.fill others (Cell.ofElement element) := by
    apply Board.ext_cell
    intro site
    simp only [Board.cell_fill, same site]
  rw [fill, boards, fill]

theorem mem_rectangle {size : Size} {width height : Nat} {site : Site size} :
    site ∈ rectangle size corner width height ↔
      (corner.x ≤ site.position.x ∧ site.position.x < corner.x + width) ∧
        corner.y ≤ site.position.y ∧ site.position.y < corner.y + height := by
  simp only [rectangle, List.mem_flatMap, List.mem_filterMap, List.mem_range,
    Size.site?_eq_some_iff]
  constructor
  · rintro ⟨down, low, right, wide, same⟩
    rw [same]
    dsimp only [Position.add_x, Position.add_y]
    omega
  · rintro ⟨columns, rows⟩
    refine ⟨(site.position.y - corner.y).toNat, by omega, (site.position.x - corner.x).toNat,
      by omega, ?_⟩
    generalize site.position = position at columns rows ⊢
    obtain ⟨x, y⟩ := position
    obtain ⟨left, top⟩ := corner
    dsimp only at columns rows ⊢
    rw [Int.toNat_of_nonneg (by omega), Int.toNat_of_nonneg (by omega)]
    exact congrArg₂ Position.mk (by simp) (by simp)

/-- A part of the grid is a rectangle if its corners are on the grid. -/
theorem exists_site_of_corners {size : Size} {first last : Position}
    (corner : ∃ site : Site size, site.position = first)
    (opposite : ∃ site : Site size, site.position = last) (columns : first.x ≤ position.x)
    (right : position.x ≤ last.x) (rows : first.y ≤ position.y) (below : position.y ≤ last.y) :
    ∃ site : Site size, site.position = position := by
  rw [Size.exists_site_iff] at corner opposite ⊢
  omega

end Grid

/-! ## Areas -/

namespace Paint

variable {size : Size} {paint : Paint} {table : ElementTable} {grid painted : Grid}

/-- An operation covers a position of a grid with the given size.  A rectangle covers as many
columns and rows as it has width and height, and nothing where one of the two is not positive. -/
def Covers (size : Size) : Paint → Position → Prop
  | cell position _, other => other = position
  | rectangle corner width height _, other =>
      (corner.x ≤ other.x ∧ other.x < corner.x + width) ∧
        corner.y ≤ other.y ∧ other.y < corner.y + height
  | row y _, other => (0 ≤ other.x ∧ other.x < size.width) ∧ other.y = y

instance (size : Size) (paint : Paint) : DecidablePred (paint.Covers size) :=
  match paint with
  | cell position _ => fun other => inferInstanceAs (Decidable (other = position))
  | rectangle corner width height _ => fun other =>
      inferInstanceAs (Decidable ((corner.x ≤ other.x ∧ other.x < corner.x + width) ∧
        corner.y ≤ other.y ∧ other.y < corner.y + height))
  | row y _ => fun other =>
      inferInstanceAs (Decidable ((0 ≤ other.x ∧ other.x < size.width) ∧ other.y = y))

/-- All positions that an operation covers are on the grid. -/
def Inside (size : Size) (paint : Paint) : Prop :=
  ∀ position, paint.Covers size position → ∃ site : Site size, site.position = position

/-- The sites that an operation covers. -/
def area (size : Size) (paint : Paint) : List (Site size) :=
  (size.sites size.rows).filter fun site => paint.Covers size site.position

theorem mem_area {site : Site size} :
    site ∈ paint.area size ↔ paint.Covers size site.position := by
  simp [area, Size.mem_sites, Size.rows]

theorem cell_fill_area (paint : Paint) (board : Board size) (cell : Cell) (site : Site size) :
    (board.fill (paint.area size) cell).cell site =
      if paint.Covers size site.position then cell else board.cell site := by
  simp only [Board.cell_fill, mem_area]

/-- A row is a rectangle as wide as the grid. -/
theorem covers_row {y : Int} {name : String} {position : Position} :
    (row y name).Covers size position ↔
      (rectangle ⟨0, y⟩ size.width 1 name).Covers size position := by
  simp only [Covers]
  omega

theorem set_eq_ok_iff {position : Position} {name : String} {element : ElementId} :
    grid.set position element = .ok painted ↔
      (cell position name).Inside grid.size ∧
        painted = grid.fill ((cell position name).area grid.size) element := by
  simp only [Grid.set, bind_eq_ok_iff, Grid.site_eq_ok_iff, Inside, Covers, forall_eq]
  constructor
  · rintro ⟨site, rfl, same⟩
    cases same
    refine ⟨⟨site, rfl⟩, Grid.fill_congr fun other => ?_⟩
    rw [List.mem_singleton, mem_area, Covers]
    exact ⟨congrArg _, Site.position_injective⟩
  · rintro ⟨⟨site, rfl⟩, rfl⟩
    refine ⟨site, rfl, congrArg _ (Grid.fill_congr fun other => ?_)⟩
    rw [List.mem_singleton, mem_area, Covers]
    exact ⟨congrArg _, Site.position_injective⟩

/-- A rectangle without positions covers nothing, and of any other the corners decide. -/
theorem inside_rectangle_iff {corner : Position} {width height : Int} {name : String} :
    (rectangle corner width height name).Inside size ↔
      0 < width → 0 < height →
        (∃ site : Site size, site.position = corner) ∧
          ∃ site : Site size, site.position = corner + ⟨width - 1, height - 1⟩ := by
  constructor
  · intro inside wide high
    constructor
    · exact inside corner ⟨by omega, by omega⟩
    · exact inside _ ⟨by dsimp only [Position.add_x]; omega, by dsimp only [Position.add_y]; omega⟩
  · rintro corners position ⟨columns, rows⟩
    obtain ⟨first, last⟩ := corners (by omega) (by omega)
    refine Grid.exists_site_of_corners first last columns.1 ?_ rows.1 ?_
    · dsimp only [Position.add_x]
      omega
    · dsimp only [Position.add_y]
      omega

theorem fillRectangle_eq_ok_iff {corner : Position} {width height : Int} {name : String}
    {element : ElementId} :
    grid.fillRectangle corner width height element = .ok painted ↔
      (rectangle corner width height name).Inside grid.size ∧
        painted = grid.fill ((rectangle corner width height name).area grid.size) element := by
  rw [inside_rectangle_iff, Grid.fillRectangle]
  split
  · rename_i nothing
    have unchanged : grid.fill [] element =
        grid.fill ((rectangle corner width height name).area grid.size) element := by
      refine Grid.fill_congr fun site => ?_
      rw [mem_area, Covers]
      simp only [List.not_mem_nil, false_iff]
      omega
    rw [← unchanged, Except.ok.injEq, eq_comm]
    exact (and_iff_right fun wide high => by omega).symm
  · rename_i sized
    have same : grid.fill (Grid.rectangle grid.size corner width.toNat height.toNat) element =
        grid.fill ((rectangle corner width height name).area grid.size) element := by
      refine Grid.fill_congr fun site => ?_
      rw [Grid.mem_rectangle, mem_area, Covers, Int.toNat_of_nonneg (by omega),
        Int.toNat_of_nonneg (by omega)]
    simp only [bind_eq_ok_iff, Grid.site_eq_ok_iff, same]
    constructor
    · rintro ⟨first, corner, last, opposite, result⟩
      cases result
      exact ⟨fun _ _ => ⟨⟨first, corner⟩, last, opposite⟩, rfl⟩
    · rintro ⟨corners, rfl⟩
      obtain ⟨⟨first, corner⟩, last, opposite⟩ := corners (by omega) (by omega)
      exact ⟨first, corner, last, opposite, rfl⟩

theorem fillRow_eq_ok_iff {y : Int} {name : String} {element : ElementId} :
    grid.fillRow y element = .ok painted ↔
      (row y name).Inside grid.size ∧
        painted = grid.fill ((row y name).area grid.size) element := by
  have areas : grid.fill ((row y name).area grid.size) element =
      grid.fill ((rectangle ⟨0, y⟩ grid.size.width 1 name).area grid.size) element :=
    Grid.fill_congr fun site => by rw [mem_area, mem_area, covers_row]
  rw [Grid.fillRow, fillRectangle_eq_ok_iff, ← areas, Inside, Inside]
  simp only [covers_row]

/-- An operation succeeds if its element has a name in the table and its area is on the grid, and
then it fills that area. -/
theorem applyTo_eq_ok_iff :
    paint.applyTo table grid = .ok painted ↔
      ∃ id, table.idOf? paint.element = some id ∧ paint.Inside grid.size ∧
        painted = grid.fill (paint.area grid.size) id := by
  rw [applyTo]
  split
  · simp_all
  · rename_i id found
    rw [found]
    simp only [Option.some.injEq, exists_eq_left']
    cases paint with
    | cell position name => exact set_eq_ok_iff
    | rectangle corner width height name => exact fillRectangle_eq_ok_iff
    | row y name => exact fillRow_eq_ok_iff

/-- An operation fails if the table has no such element or part of its area is not on the grid. -/
theorem not_succeeds_applyTo_iff :
    ¬Succeeds (paint.applyTo table grid) ↔
      table.idOf? paint.element = none ∨
        ∃ position, paint.Covers grid.size position ∧ grid.size.site? position = none := by
  have known : table.idOf? paint.element = none ↔ ¬∃ id, table.idOf? paint.element = some id := by
    rw [← Option.isSome_iff_exists, Option.not_isSome_iff_eq_none]
  have inside : (∃ position, paint.Covers grid.size position ∧ grid.size.site? position = none) ↔
      ¬paint.Inside grid.size := by
    simp only [Inside, not_forall, ← Size.site?_eq_some_iff, ← Option.isSome_iff_exists,
      Option.not_isSome_iff_eq_none, exists_prop]
  have succeeds : Succeeds (paint.applyTo table grid) ↔
      (∃ id, table.idOf? paint.element = some id) ∧ paint.Inside grid.size := by
    simp only [Succeeds, applyTo_eq_ok_iff]
    constructor
    · rintro ⟨-, id, found, inside, -⟩
      exact ⟨⟨id, found⟩, inside⟩
    · rintro ⟨⟨id, found⟩, inside⟩
      exact ⟨_, id, found, inside, rfl⟩
  rw [succeeds, known, inside, not_and_or]

/-! ## Operations in a row -/

/-- Operations are carried out one after the other, as long as they succeed. -/
def inTurn (table : ElementTable) (paints : List Paint) (grid : Grid) : Except GridFault Grid :=
  paints.foldlM (fun grid paint => paint.applyTo table grid) grid

variable {paints : List Paint}

theorem applyAll_append (index : Nat) (rest : List Paint)
    (done : inTurn table paints grid = .ok painted) :
    applyAll table index (paints ++ rest) grid =
      applyAll table (index + paints.length) rest painted := by
  induction paints generalizing grid index with
  | nil =>
      cases done
      rfl
  | cons paint paints induction =>
      rw [inTurn, List.foldlM_cons] at done
      obtain ⟨between, first, later⟩ := bind_eq_ok_iff.mp done
      rw [List.cons_append, applyAll, first]
      dsimp only
      rw [induction (index + 1) later, List.length_cons, Nat.add_assoc, Nat.add_comm 1]

theorem applyAll_of_ok (index : Nat) (done : inTurn table paints grid = .ok painted) :
    applyAll table index paints grid = (none, painted) := by
  rw [← List.append_nil paints, applyAll_append index [] done, applyAll]

/-- Painting either carries out all operations, or stops before the first that fails. -/
theorem applyAll_cases (table : ElementTable) (index : Nat) (paints : List Paint) (grid : Grid) :
    (∃ painted, inTurn table paints grid = .ok painted ∧
      applyAll table index paints grid = (none, painted)) ∨
    ∃ before paint after painted fault, paints = before ++ paint :: after ∧
      inTurn table before grid = .ok painted ∧ paint.applyTo table painted = .error fault ∧
      applyAll table index paints grid = (some ⟨index + before.length, fault⟩, painted) := by
  cases outcome : inTurn table paints grid with
  | ok painted => exact .inl ⟨painted, rfl, applyAll_of_ok index outcome⟩
  | error fault =>
      obtain ⟨before, paint, after, painted, rfl, done, failed⟩ :=
        exists_first_of_foldlM_eq_error outcome
      refine .inr ⟨before, paint, after, painted, fault, rfl, done, failed, ?_⟩
      rw [applyAll_append index _ done, applyAll, failed]

/-- What operations make of the cell at a position: a fresh cell of the element of the last of them
that covers it, or nothing if none does. -/
def Leaves (table : ElementTable) (size : Size) (paints : List Paint) (position : Position)
    (before after : Cell) : Prop :=
  match (paints.filter fun paint => paint.Covers size position).getLast? with
  | some paint => ∃ id, table.idOf? paint.element = some id ∧ after = Cell.ofElement id
  | none => after = before

/-- The operation that comes first decides only where no other covers. -/
theorem leaves_cons {position : Position} {before between after : Cell} {id : ElementId}
    (found : table.idOf? paint.element = some id)
    (first : between = if paint.Covers size position then Cell.ofElement id else before)
    (rest : Leaves table size paints position between after) :
    Leaves table size (paint :: paints) position before after := by
  rw [Leaves] at rest ⊢
  rw [List.filter_cons]
  by_cases covers : paint.Covers size position
  · rw [if_pos covers] at first
    rw [if_pos (by simpa using covers), List.getLast?_cons]
    generalize (paints.filter fun paint => paint.Covers size position).getLast? = last at rest
    cases last with
    | none => exact ⟨id, found, rest.trans first⟩
    | some last => exact rest
  · rw [if_neg covers] at first
    rwa [if_neg (by simpa using covers), ← first]

/-- Operations change nothing of a grid but its cells, and each cell as the last of them says. -/
theorem exists_board_of_inTurn (done : inTurn table paints grid = .ok painted) :
    ∃ board : Board grid.size, painted = { grid with board } ∧ ∀ site : Site grid.size,
      Leaves table grid.size paints site.position (grid.board.cell site) (board.cell site) := by
  induction paints generalizing grid with
  | nil =>
      cases done
      exact ⟨_, rfl, fun _ => rfl⟩
  | cons paint paints induction =>
      rw [inTurn, List.foldlM_cons] at done
      obtain ⟨between, first, later⟩ := bind_eq_ok_iff.mp done
      obtain ⟨id, found, -, rfl⟩ := applyTo_eq_ok_iff.mp first
      obtain ⟨board, rfl, leaves⟩ := induction later
      refine ⟨board, rfl, fun site => leaves_cons found ?_ (leaves site)⟩
      exact cell_fill_area paint grid.board (Cell.ofElement id) site

end Paint

/-- Painting a scene, if it succeeds, leaves at every site a fresh cell with the element of the last
operation that covers it, and where none does the cell that was there.  If it fails at an operation,
the grid is what the operations before that one make of it.  An operation alone fails if there is no
such element or its area has a position off the grid; it paints nothing then, and otherwise all of
its area and nothing else. -/
theorem Scene.apply_last_decides (scene : Scene) (table : ElementTable) (grid : Grid) :
    (∀ painted, scene.apply table grid = (none, painted) →
      ∃ board : Board grid.size, painted = { grid with board } ∧ ∀ site : Site grid.size,
        Paint.Leaves table grid.size scene.paint site.position (grid.board.cell site)
          (board.cell site)) ∧
    (∀ fault painted, scene.apply table grid = (some fault, painted) →
      ∃ before paint after, scene.paint = before ++ paint :: after ∧ before.length = fault.index ∧
        ({ scene with paint := before } : Scene).apply table grid = (none, painted) ∧
        paint.applyTo table painted = .error fault.fault) ∧
    ∀ paint : Paint,
      let alone := ({ scene with paint := [paint] } : Scene).apply table grid
      (alone.1 ≠ none ↔
        table.idOf? paint.element = none ∨
          ∃ position, paint.Covers grid.size position ∧ grid.size.site? position = none) ∧
      (alone.1 ≠ none → alone.2 = grid) ∧
      (alone.1 = none →
        ∃ id board, table.idOf? paint.element = some id ∧ alone.2 = { grid with board } ∧
          ∀ site, board.cell site =
            if paint.Covers grid.size site.position then Cell.ofElement id
            else grid.board.cell site) := by
  refine ⟨fun painted applied => ?_, fun fault painted applied => ?_, fun paint => ?_⟩
  · obtain ⟨result, done, applied'⟩ | ⟨_, _, _, _, _, -, -, -, applied'⟩ :=
      Paint.applyAll_cases table 0 scene.paint grid
    · obtain ⟨-, rfl⟩ := Prod.mk.inj (applied.symm.trans applied')
      exact Paint.exists_board_of_inTurn done
    · cases applied.symm.trans applied'
  · obtain ⟨_, -, applied'⟩ | ⟨before, paint, after, result, cause, cut, done, failed, applied'⟩ :=
      Paint.applyAll_cases table 0 scene.paint grid
    · cases applied.symm.trans applied'
    · cases applied.symm.trans applied'
      exact ⟨before, paint, after, cut, (Nat.zero_add before.length).symm,
        Paint.applyAll_of_ok 0 done, failed⟩
  · intro alone
    rw [← Paint.not_succeeds_applyTo_iff]
    cases outcome : paint.applyTo table grid with
    | ok painted =>
        have step : alone = (none, painted) := by
          simp only [alone, Scene.apply, Paint.applyAll, outcome]
        obtain ⟨id, found, -, rfl⟩ := Paint.applyTo_eq_ok_iff.mp outcome
        rw [step]
        refine ⟨by simp [succeeds_ok], fun failed => absurd rfl failed, fun _ => ?_⟩
        exact ⟨id, _, found, rfl, paint.cell_fill_area grid.board (Cell.ofElement id)⟩
    | error fault =>
        have step : alone = (some ⟨0, fault⟩, grid) := by
          simp only [alone, Scene.apply, Paint.applyAll, outcome]
        rw [step]
        exact ⟨by simp [not_succeeds_error], fun _ => rfl, fun done => by cases done⟩

end FallingSand
