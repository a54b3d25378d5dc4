import FallingSand.Proofs.Number.Whole
import FallingSand.Proofs.Tick.Workers

/-!
# Bands as rows of the whole grid

A band reaches one row beyond its own on each side.  A turn that starts in a row of the band does
not look further: a reaction looks at adjacent sites, and a particle whose gravity is at most one
takes one vertical step at most before it drifts along the row that it has come to.  So it makes no
difference whether a band has its window or the whole grid in reach.
-/

namespace FallingSand

variable {size : Size}

/-! ## Windows around a row -/

namespace Window

variable {window : Window} {site : Site size} {offset : Position}

/-- The window reaches a row and the rows next to it. -/
def Surrounds (window : Window) (y : Fin size.height) : Prop :=
  ∀ next : Fin size.height, next.val ≤ y.val + 1 ∧ y.val ≤ next.val + 1 →
    window.rows.contains next = true

theorem contains_whole (edge : Edge) (y : Fin size.height) :
    (whole size edge).rows.contains y = true :=
  (Rows.contains_iff _ _).mpr ⟨Nat.zero_le _, y.isLt⟩

theorem Surrounds.contains {y : Fin size.height} (around : window.Surrounds y) :
    window.rows.contains y = true :=
  around y ⟨Nat.le_succ _, Nat.le_succ _⟩

/-- What stands for a site in a row of the window stands for the same site in the whole grid. -/
theorem resolve_eq_whole {position : Position}
    (inside : ∀ y : Fin size.height, position.y = y.val → window.rows.contains y = true) :
    window.resolve position = ((whole size window.edge).resolve position : Option (Site size)) := by
  apply Option.ext
  intro target
  have columns : (whole size window.edge).column? size = window.column? size := rfl
  rw [resolve_eq_some_iff, resolve_eq_some_iff, columns]
  refine and_congr_right fun row => and_congr_right fun _ => ?_
  exact iff_of_true (inside _ row) (contains_whole _ _)

theorem Surrounds.resolve (around : window.Surrounds site.y)
    (near : offset.y = 0 ∨ offset.y = 1 ∨ offset.y = -1) :
    window.resolve (site.position + offset) =
      ((whole size window.edge).resolve (site.position + offset) : Option (Site size)) := by
  refine resolve_eq_whole fun y row => around y ?_
  simp only [Position.add_y, Site.position] at row
  omega

theorem Surrounds.around {offsets : List Position} (around : window.Surrounds site.y)
    (near : ∀ offset ∈ offsets, offset.y = 0 ∨ offset.y = 1 ∨ offset.y = -1) :
    window.around offsets site.position =
      ((whole size window.edge).around offsets site.position : List (Site size)) := by
  have found : offsets.filterMap (fun offset => window.resolve (site.position + offset)) =
      offsets.filterMap fun offset =>
        ((whole size window.edge).resolve (site.position + offset) : Option (Site size)) :=
    List.filterMap_congr fun offset listed => around.resolve (near offset listed)
  rw [Window.around, found, Window.around]

end Window

/-! ## Turns in a row that the window surrounds -/

namespace Progress

variable {σ : Type} [RandomSource σ] {rules : RuleSet} {table : ElementTable} {window : Window}
  {mover : Properties} {site : Site size} {progress : Progress size σ}

theorem react_of_surrounds (around : window.Surrounds site.y) :
    progress.react rules window site =
      progress.react rules (Window.whole size window.edge) site := by
  unfold react
  dsimp only
  split
  · rfl
  · rw [around.around fun offset listed => ?_]
    have given : offset ∈ orthogonal := by simpa [mem_shuffle] using listed
    simp only [orthogonal, List.mem_cons, List.not_mem_nil, or_false] at given
    rcases given with rfl | rfl | rfl | rfl <;> decide

/-- One step in the direction of travel, a particle may enter the same sites. -/
theorem entrance?_of_surrounds (around : window.Surrounds site.y) (board : Board size) (x : Int) :
    board.entrance? table window mover site ⟨x, mover.direction⟩ =
      board.entrance? table (Window.whole size window.edge) mover site ⟨x, mover.direction⟩ := by
  have directions := mover.direction_cases
  rw [Board.entrance?, around.resolve (by dsimp only; omega), Board.entrance?]

theorem drawSlide?_of_surrounds (around : window.Surrounds site.y) :
    progress.drawSlide? table window mover site =
      progress.drawSlide? table (Window.whole size window.edge) mover site := by
  have same (side : Int) : (diagonals mover.direction side).findSome?
      (progress.board.entrance? table window mover site) =
      (diagonals mover.direction side).findSome?
        (progress.board.entrance? table (Window.whole size window.edge) mover site) := by
    simp only [diagonals, List.findSome?_cons, List.findSome?_nil, entrance?_of_surrounds around]
  simp only [drawSlide?, same]

/-- One vertical step leads no further than the next row. -/
theorem descend_of_surrounds (around : window.Surrounds site.y) {steps : Nat} (few : steps ≤ 1) :
    descend table window mover steps site progress =
      descend table (Window.whole size window.edge) mover steps site progress := by
  obtain rfl | rfl : steps = 0 ∨ steps = 1 := by omega
  · rfl
  · rw [descend_add_one, descend_add_one, entrance?_of_surrounds around,
      drawSlide?_of_surrounds around]
    rfl

/-- Drifting keeps to the row. -/
theorem drift_of_contains (inside : window.rows.contains site.y = true) :
    drift table window mover site progress =
      drift table (Window.whole size window.edge) mover site progress := by
  have same (side : Int) : progress.board.entrance? table window mover site ⟨side, 0⟩ =
      progress.board.entrance? table (Window.whole size window.edge) mover site ⟨side, 0⟩ := by
    rw [Board.entrance?, Board.entrance?, Window.resolve_eq_whole fun y row => ?_]
    simp only [Position.add_y, Site.position, Int.add_zero, Int.natCast_inj] at row
    exact row ▸ inside
  simp only [drift, same]

theorem move_of_surrounds (around : window.Surrounds site.y)
    (light : (table.properties (progress.board.cell site).element).gravity.abs.le Single.one =
      true) :
    progress.move table window site =
      progress.move table (Window.whole size window.edge) site := by
  have room : 0 < window.rows.count := by
    have own := (Rows.contains_iff _ _).mp around.contains
    rw [Rows.count]
    omega
  have drawn := Properties.drawSteps_of_le_one light room progress.source
  have drawnWhole := Properties.drawSteps_of_le_one light size.height_pos progress.source
  have height : (Window.whole size window.edge).rows.count = size.height := rfl
  unfold move
  dsimp only
  rw [height, drawn.1, drawnWhole.1, descend_of_surrounds around drawn.2]
  split
  · rfl
  · generalize table.properties (progress.board.cell site).element = mover at drawn ⊢
    -- the particle has come to a row of the window
    have reached := contains_descend table mover (mover.drawSteps 1 progress.source).1
      { progress with source := (mover.drawSteps 1 progress.source).2 } around.contains
    rw [descend_of_surrounds around drawn.2] at reached
    rw [drift_of_contains reached]

end Progress

/-! ## Phases -/

/-- No element falls or rises faster than one row in a tick. -/
def ElementTable.Light (table : ElementTable) : Prop :=
  ∀ element ∈ table.entries, element.properties.gravity.abs.le Single.one = true

theorem ElementTable.Light.properties {table : ElementTable} (light : table.Light)
    (id : ElementId) : (table.properties id).gravity.abs.le Single.one = true := by
  rw [ElementTable.properties, get]
  split
  · exact light _ (Array.getElem_mem _)
  · exact light _ (Array.getElem_mem _)

namespace Phase

variable {σ : Type} [RandomSource σ] {rules : RuleSet} {window : Window} {rows : Rows}

theorem run_of_surrounds {phase : Phase} (gentle : phase = .move → rules.elements.Light)
    (around : ∀ y : Fin size.height, rows.contains y = true → window.Surrounds y)
    (progress : Progress size σ) :
    phase.run rules window rows progress =
      phase.run rules (Window.whole size window.edge) rows progress := by
  cases phase with
  | change => rfl
  | move =>
      have light := gentle rfl
      simp only [run, Progress.moveAll]
      refine List.foldl_ext _ _ _ fun state mover listed => ?_
      have found : mover ∈ (size.sites rows).filterMap
          (Progress.Mover.find? rules.elements progress.board) := by
        simpa [mem_shuffle] using listed
      obtain ⟨site, standing, same⟩ := List.mem_filterMap.mp found
      have here := Progress.Mover.site_of_find? same
      rw [Progress.move_of_surrounds (here ▸ around _ (Size.mem_sites.mp standing))
        (light.properties _)]
  | react =>
      simp only [run, Progress.reactAll, ← Array.foldl_toList]
      refine List.foldl_ext _ _ _ fun state site listed => ?_
      have standing : site ∈ size.sites rows := by simpa [mem_shuffle] using listed
      rw [Progress.react_of_surrounds (around _ (Size.mem_sites.mp standing))]

/-- What a generator of its own makes of the rows of one band with the whole grid in reach. -/
def runRows (phase : Phase) (rules : RuleSet) (edge : Edge) (seed tick : UInt64)
    (state : Board size × Tally) (band : Rows × Nat) : Board size × Tally :=
  let (rows, number) := band
  let progress : Progress size Xoshiro :=
    { board := state.1
      tally := state.2
      source := Xoshiro.ofSeed (bandSeed seed tick phase (UInt64.ofNat number)) }
  let after := phase.run rules (Window.whole size edge) rows progress
  (after.board, after.tally)

/-- Run a phase over the rows of all bands, with the whole grid in reach. -/
def runUnsplit (rules : RuleSet) (edge : Edge) (bands : List Rows) (seed tick : UInt64)
    (state : Board size × Tally) (phase : Phase) : Board size × Tally :=
  (pass 0 bands ++ pass 1 bands).foldl (phase.runRows rules edge seed tick)
    (phase.clear state.1, state.2)

theorem runBanded_eq_runUnsplit {phase : Phase} (gentle : phase = .move → rules.elements.Light)
    (edge : Edge) (bands : List Rows) (seed tick : UInt64) (state : Board size × Tally) :
    phase.runBanded rules edge bands seed tick state =
      phase.runUnsplit rules edge bands seed tick state := by
  refine List.foldl_ext _ _ _ fun state band _ => ?_
  have around : ∀ y : Fin size.height, band.1.contains y = true →
      (⟨edge, band.1.widen size.height⟩ : Window).Surrounds y :=
    fun y own next near => Rows.contains_widen own near next.isLt
  unfold runBand runRows
  dsimp only
  rw [run_of_surrounds gentle around]

end Phase

/-- One tick over the rows of bands, with the whole grid in reach. -/
def Grid.stepUnsplit (rules : RuleSet) (bands : List Rows) (seed : UInt64) (grid : Grid) :
    Tally × Grid :=
  let (board, tally) :=
    Phase.all.foldl (Phase.runUnsplit rules grid.edge bands seed grid.tick)
      (grid.board, Tally.zero)
  (tally, { grid with board, tick := grid.tick + 1 })

theorem Grid.stepBanded_eq_stepUnsplit {rules : RuleSet} (light : rules.elements.Light)
    (bands : List Rows) (seed : UInt64) (grid : Grid) :
    grid.stepBanded rules bands seed = grid.stepUnsplit rules bands seed := by
  have phases : Phase.all.foldl (Phase.runBanded rules grid.edge bands seed grid.tick)
      (grid.board, Tally.zero) =
      Phase.all.foldl (Phase.runUnsplit rules grid.edge bands seed grid.tick)
        (grid.board, Tally.zero) :=
    List.foldl_ext _ _ _ fun state phase _ =>
      Phase.runBanded_eq_runUnsplit (fun _ => light) grid.edge bands seed grid.tick state
  rw [stepBanded, phases, stepUnsplit]

/-- If no element falls or rises faster than one row in a tick, then a tick over the bands of a
grid, be it by workers that know the cells of their windows only or one band after the other, does
what the bands do with the whole grid in reach.  The phases in which nothing moves do so for all
elements. -/
theorem banded_eq_unsplit (rules : RuleSet) (grid : Grid) (wished : Nat) (seed : UInt64) :
    let bands := bandRows grid.size.height wished
    (rules.elements.Light →
      grid.stepBanded rules bands seed = grid.stepUnsplit rules bands seed ∧
      grid.stepApart? rules bands seed = some (grid.stepUnsplit rules bands seed)) ∧
    ∀ phase : Phase, phase ≠ .move → ∀ (tick : UInt64) (state : Board grid.size × Tally),
      phase.runBanded rules grid.edge bands seed tick state =
        phase.runUnsplit rules grid.edge bands seed tick state ∧
      phase.runApart? rules grid.edge bands seed tick state =
        some (phase.runUnsplit rules grid.edge bands seed tick state) := by
  intro bands
  refine ⟨fun light => ?_, fun phase still tick state => ?_⟩
  · have same := grid.stepBanded_eq_stepUnsplit light bands seed
    exact ⟨same, (grid.stepApart?_eq_some rules wished seed).trans (congrArg some same)⟩
  · have gentle : phase = .move → rules.elements.Light := fun moves => absurd moves still
    have same := Phase.runBanded_eq_runUnsplit gentle grid.edge bands seed tick state
    exact ⟨same, (Phase.runApart?_eq_some wished state).trans (congrArg some same)⟩

/-- Sand that falls one row in a tick. -/
def sanding : RuleSet :=
  let sand : Element :=
    { id := ⟨1⟩, name := "Sand", color := none, displayName := none, description := "", tags := [],
      properties := { Properties.none with density := Single.half, gravity := Single.one },
      relations := [] }
  let void : Element :=
    { sand with id := ElementId.empty, name := emptyName, properties := Properties.none }
  RuleSet.ofRules none ⟨#[void, sand], by decide⟩ Registry.empty [] []

theorem sanding_eq_unsplit : sanding.elements.Light ∧
    ∀ (grid : Grid) (seed : UInt64),
      grid.stepBanded sanding (bandRows grid.size.height 3) seed =
        grid.stepUnsplit sanding (bandRows grid.size.height 3) seed ∧
      grid.stepApart? sanding (bandRows grid.size.height 3) seed =
        some (grid.stepUnsplit sanding (bandRows grid.size.height 3) seed) := by
  have light : sanding.elements.Light := by
    unfold ElementTable.Light
    decide
  exact ⟨light, fun grid seed => (banded_eq_unsplit sanding grid 3 seed).1 light⟩

end FallingSand
