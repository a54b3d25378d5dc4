import FallingSand.Proofs.Tick.StripTurns

/-!
# Phases on a strip

A phase on a strip collects the positions of some rows and gives each of them its turn.  Where the
cells move, the positions are put in order by what stands there when the phase begins and are not
looked up again.  On the strip of a window a phase does not fail, and it does to the strip what it
does to the board.
-/

namespace FallingSand

/-- A particle waiting for its turn to move, known by its position. -/
structure StripMover where
  /-- Where it waits. -/
  position : Position
  /-- Rank of its density in its direction of travel. -/
  weight : Int
  /-- How far it is along its direction of travel. -/
  advance : Int

namespace StripMover

/-- The particle at a position, if it can move. -/
def find? (table : ElementTable) (strip : Strip) (position : Position) :
    Option (Option StripMover) := do
  let cell ← strip.read? position
  let properties := table.properties cell.element
  let direction := properties.direction
  if direction = 0 then return none
  else
    let weight := if direction = 1 then properties.density else properties.density.neg
    let advance ← word? (position.y * direction)
    return some { position, weight := weight.totalRank, advance }

/-- The particles at some positions that can move. -/
def findAll? (table : ElementTable) (strip : Strip) (positions : List Position) :
    Option (List StripMover) := do
  let found ← positions.mapM (find? table strip)
  return found.filterMap id

/-- Heavier particles go first, and of equally heavy ones those nearest their destination. -/
def goesBefore (first second : StripMover) : Bool :=
  second.weight < first.weight ||
    (first.weight == second.weight && second.advance ≤ first.advance)

end StripMover

namespace StripProgress

variable {σ : Type} [RandomSource σ]

/-- Give every position of some rows its turn, in random order. -/
def eachOnce? (turn? : Position → StripProgress σ → Option (StripProgress σ)) (rows : Rows)
    (progress : StripProgress σ) : Option (StripProgress σ) := do
  let positions ← progress.strip.positions? rows
  let (order, source) ← shuffle? positions.toArray progress.source
  order.toList.foldlM (fun progress position => turn? position progress) { progress with source }

/-- Let every particle of some rows move once, in the order of its weight and advance. -/
def moveAll? (table : ElementTable) (rows : Rows) (progress : StripProgress σ) :
    Option (StripProgress σ) := do
  let positions ← progress.strip.positions? rows
  let found ← StripMover.findAll? table progress.strip positions
  let (movers, source) ← shuffle? found.toArray progress.source
  (movers.toList.mergeSort StripMover.goesBefore).foldlM
    (fun progress mover => progress.move? table mover.position) { progress with source }

end StripProgress

/-- Give every position of some rows its turn of a phase. -/
def Phase.runOn? {σ : Type} [RandomSource σ] (phase : Phase) (rules : RuleSet) (rows : Rows)
    (progress : StripProgress σ) : Option (StripProgress σ) :=
  match phase with
  | change => progress.eachOnce? (StripProgress.change? rules) rows
  | move => progress.moveAll? rules.elements rows
  | react => progress.eachOnce? (StripProgress.react? rules) rows

/-! ## Nothing fails on the strip of a window -/

/-- A fold of steps that do not fail does not fail, and it shows what the fold of other steps shows
if every step does. -/
theorem foldlM_map_eq_some {α β γ δ : Type} (view : β → γ) (place : α → δ)
    {step? : γ → δ → Option γ} {step : β → α → β} {items : List α}
    (each : ∀ state, ∀ item ∈ items,
      step? (view state) (place item) = some (view (step state item)))
    (start : β) :
    (items.map place).foldlM step? (view start) = some (view (items.foldl step start)) := by
  induction items generalizing start with
  | nil => rfl
  | cons item items induction =>
      obtain ⟨here, later⟩ := forall_and.mp fun state => List.forall_mem_cons.mp (each state)
      rw [List.map_cons, List.foldlM_cons, here, Option.bind_eq_bind, Option.bind_some]
      exact induction later _

variable {size : Size} {window : Window} {rows : Rows} {site : Site size} {board : Board size}

/-- What a strip knows of a particle that waits for its turn. -/
def Progress.Mover.onStrip (mover : Progress.Mover size) : StripMover where
  position := mover.site.position
  weight := mover.weight
  advance := mover.advance

namespace StripMover

theorem find?_position (inside : window.rows.Inside size)
    (contained : window.rows.contains site.y = true) (table : ElementTable) :
    find? table (board.strip window) site.position =
      some ((Progress.Mover.find? table board site).map Progress.Mover.onStrip) := by
  rw [find?, Strip.read?_position inside contained, Progress.Mover.find?]
  simp only [Option.bind_eq_bind, Option.bind_some]
  generalize table.properties (board.cell site).element = properties
  split
  · rfl
  · have row := site.y.isLt
    have height := size.height_le
    rw [maxArea] at height
    have bounds : -2147483648 ≤ site.position.y * properties.direction ∧
        site.position.y * properties.direction ≤ 2147483647 := by
      simp only [Site.position]
      rcases properties.direction_cases with down | up | still <;> simp only [*] <;> omega
    rw [word?, if_pos bounds]
    rfl

theorem findAll?_positions (inside : window.rows.Inside size) {sites : List (Site size)}
    (contained : ∀ site ∈ sites, window.rows.contains site.y = true) (table : ElementTable) :
    findAll? table (board.strip window) (sites.map Site.position) =
      some ((sites.filterMap (Progress.Mover.find? table board)).map Progress.Mover.onStrip) := by
  have found : (sites.map Site.position).mapM (find? table (board.strip window)) =
      some (sites.map fun site =>
        (Progress.Mover.find? table board site).map Progress.Mover.onStrip) := by
    rw [List.mapM_map]
    exact mapM_eq_some_map fun site listed => find?_position inside (contained site listed) table
  rw [findAll?, found, Option.bind_eq_bind, Option.bind_some, List.filterMap_map,
    List.map_filterMap]
  rfl

end StripMover

namespace StripProgress

variable {σ : Type} [RandomSource σ] (own : rows.Inside size)
  (within : ∀ y : Fin size.height, rows.contains y = true → window.rows.contains y = true)
  (progress : Progress size σ)

include own within

theorem eachOnce?_onStrip {turn? : Position → StripProgress σ → Option (StripProgress σ)}
    {turn : Progress size σ → Site size → Progress size σ}
    (agree : ∀ site, window.rows.contains site.y = true → ∀ progress : Progress size σ,
      turn? site.position (progress.onStrip window) = some ((turn progress site).onStrip window)) :
    (progress.onStrip window).eachOnce? turn? rows =
      some (((shuffle (size.sites rows).toArray progress.source).1.foldl turn
        { progress with
          source := (shuffle (size.sites rows).toArray progress.source).2 }).onStrip window) := by
  rw [eachOnce?, Progress.strip_onStrip, Strip.positions?_strip own, Option.bind_eq_bind,
    Option.bind_some, ← List.map_toArray, shuffle?_eq_some, shuffle_map, Progress.source_onStrip,
    Option.bind_eq_bind, Option.bind_some, ← Array.foldl_toList]
  have drawn (site : Site size) :
      site ∈ (shuffle (size.sites rows).toArray progress.source).1.toList →
        window.rows.contains site.y = true := by
    intro listed
    have member : site ∈ size.sites rows := by simpa [mem_shuffle] using listed
    exact within _ (Size.mem_sites.mp member)
  generalize shuffle (size.sites rows).toArray progress.source = order at drawn
  dsimp only
  rw [Array.toList_map]
  exact foldlM_map_eq_some (Progress.onStrip window) Site.position
    (fun state site listed => agree site (drawn site listed) state)
    { progress with source := order.2 }

theorem moveAll?_onStrip (inside : window.rows.Inside size) (table : ElementTable) :
    (progress.onStrip window).moveAll? table rows =
      some ((progress.moveAll table window rows).onStrip window) := by
  have standing : ∀ site ∈ size.sites rows, window.rows.contains site.y = true :=
    fun site listed => within _ (Size.mem_sites.mp listed)
  rw [moveAll?, Progress.strip_onStrip, Strip.positions?_strip own, Progress.moveAll]
  simp only [Option.bind_eq_bind, Option.bind_some,
    StripMover.findAll?_positions inside standing]
  rw [← List.map_toArray, shuffle?_eq_some, shuffle_map, Progress.source_onStrip,
    Option.bind_some]
  have drawn (mover : Progress.Mover size) :
      mover ∈ ((shuffle ((size.sites rows).filterMap
          (Progress.Mover.find? table progress.board)).toArray progress.source).1.toList.mergeSort
            Progress.Mover.goesBefore) →
        window.rows.contains mover.site.y = true := by
    intro listed
    have member : mover ∈ (size.sites rows).filterMap
        (Progress.Mover.find? table progress.board) := by
      simpa [mem_shuffle] using listed
    obtain ⟨site, stands, same⟩ := List.mem_filterMap.mp member
    exact Progress.Mover.site_of_find? same ▸ standing site stands
  generalize shuffle ((size.sites rows).filterMap
    (Progress.Mover.find? table progress.board)).toArray progress.source = order at drawn
  have sorted : (order.1.toList.mergeSort Progress.Mover.goesBefore).map Progress.Mover.onStrip =
      (order.1.toList.map Progress.Mover.onStrip).mergeSort StripMover.goesBefore :=
    List.map_mergeSort fun _ _ _ _ => rfl
  dsimp only
  rw [Array.toList_map, ← sorted]
  exact foldlM_map_eq_some (Progress.onStrip window) Progress.Mover.onStrip
    (fun state mover listed => move?_onStrip inside (drawn mover listed) state)
    { progress with source := order.2 }

end StripProgress

/-- On the strip of a window a phase over rows of the window does not fail, and it does to the strip
what it does to the board. -/
theorem Phase.runOn?_onStrip {σ : Type} [RandomSource σ] (phase : Phase) (rules : RuleSet)
    (inside : window.rows.Inside size) (own : rows.Inside size)
    (within : ∀ y : Fin size.height, rows.contains y = true → window.rows.contains y = true)
    (progress : Progress size σ) :
    phase.runOn? rules rows (progress.onStrip window) =
      some ((phase.run rules window rows progress).onStrip window) := by
  cases phase with
  | change =>
      exact StripProgress.eachOnce?_onStrip own within progress fun site contained =>
        StripProgress.change?_onStrip inside contained
  | move => exact StripProgress.moveAll?_onStrip own within progress inside rules.elements
  | react =>
      exact StripProgress.eachOnce?_onStrip own within progress fun site contained =>
        StripProgress.react?_onStrip inside contained

end FallingSand
