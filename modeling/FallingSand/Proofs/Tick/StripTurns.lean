import FallingSand.Proofs.FirstPlaces
import FallingSand.Proofs.Tick.Strip

/-!
# Turns on a strip

A turn on a strip names cells by positions only.  It reads, replaces and exchanges them at their
addresses, and it fails with the first check that does.  On the strip of a window no turn of a site
of the window fails, and it does to the strip what the turn does to the board.
-/

namespace FallingSand

/-- The state of a tick under way on a strip. -/
structure StripProgress (σ : Type) where
  /-- The cells. -/
  strip : Strip
  /-- What has happened. -/
  tally : Tally
  /-- The source of randomness. -/
  source : σ

namespace Progress

variable {size : Size} {σ : Type}

/-- What is seen of the state of a tick in a window. -/
def onStrip (window : Window) (progress : Progress size σ) : StripProgress σ where
  strip := progress.board.strip window
  tally := progress.tally
  source := progress.source

@[simp]
theorem strip_onStrip (window : Window) (progress : Progress size σ) :
    (progress.onStrip window).strip = progress.board.strip window := rfl

@[simp]
theorem source_onStrip (window : Window) (progress : Progress size σ) :
    (progress.onStrip window).source = progress.source := rfl

end Progress

/-! ## Checked turns -/

namespace Strip

/-- The positions found in the given directions from a position, each once, and without the
position itself. -/
def around? (strip : Strip) (offsets : List Position) (position : Position) :
    Option (List Position) := do
  let shifted ← offsets.mapM position.shift?
  return ((shifted.filterMap strip.resolve).filter fun found => found ≠ position).eraseDups

/-- The position that a particle enters when it moves from a position by an offset, if it can. -/
def entrance? (strip : Strip) (table : ElementTable) (mover : Properties)
    (position offset : Position) : Option (Option Position) := do
  let shifted ← position.shift? offset
  match strip.resolve shifted with
  | none => return none
  | some target =>
      if target = position then return none
      else
        let cell ← strip.read? target
        return if table.canDisplace mover cell then some target else none

/-- The position that a particle enters by the first of the offsets by which it can. -/
def entranceAmong? (strip : Strip) (table : ElementTable) (mover : Properties)
    (position : Position) : List Position → Option (Option Position)
  | [] => some none
  | offset :: rest => do
      match ← strip.entrance? table mover position offset with
      | some next => return some next
      | none => entranceAmong? strip table mover position rest

end Strip

namespace StripProgress

variable {σ : Type} [RandomSource σ]

/-- Let the cell at a position change. -/
def change? (rules : RuleSet) (position : Position) (progress : StripProgress σ) :
    Option (StripProgress σ) := do
  let cell ← progress.strip.read? position
  let (target, source) := rules.tryTransition cell.element progress.source
  match target with
  | some target => do
      let strip ← progress.strip.write? position (Cell.ofElement target)
      return { strip, tally := progress.tally.addTransition, source }
  | none => return { progress with source }

/-- Let the element at a position act on the cells at the given ones in turn. -/
def actOn? (rules : RuleSet) (position : Position) (element : ElementId) :
    List Position → StripProgress σ → Option (StripProgress σ)
  | [], progress => some progress
  | neighbor :: rest, progress => do
      let other ← progress.strip.read? neighbor
      if other.reacted then actOn? rules position element rest progress
      else
        let (outcome, source) := rules.tryReact element other.element progress.source
        match outcome with
        | some (left, right) => do
            let strip ← progress.strip.write? position (Cell.ofReacted left)
            let strip ← strip.write? neighbor (Cell.ofReacted right)
            return { strip, tally := progress.tally.addReaction, source }
        | none => actOn? rules position element rest { progress with source }

/-- Let the cell at a position react. -/
def react? (rules : RuleSet) (position : Position) (progress : StripProgress σ) :
    Option (StripProgress σ) := do
  let cell ← progress.strip.read? position
  if cell.isEmpty || cell.reacted || !rules.hasReactionsFrom cell.element then return progress
  else
    let (offsets, source) ← shuffle? orthogonal.toArray progress.source
    let neighbors ← progress.strip.around? offsets.toList position
    actOn? rules position cell.element neighbors { progress with source }

/-- Take vertical steps until they are used up or the particle is stuck. -/
def descend? (table : ElementTable) (mover : Properties) :
    (steps : Nat) → Position → StripProgress σ → Option (Position × StripProgress σ)
  | 0, position, progress => some (position, progress)
  | steps + 1, position, progress => do
      match ← progress.strip.entrance? table mover position ⟨0, mover.direction⟩ with
      | some next => do
          let strip ← progress.strip.swap? position next
          descend? table mover steps next { progress with strip }
      | none => do
          let (side, source) := drawSide? mover.slide progress.source
          let offsets := (side.map (diagonals mover.direction)).getD []
          match ← progress.strip.entranceAmong? table mover position offsets with
          | some next => do
              let strip ← progress.strip.swap? position next
              descend? table mover steps next { progress with strip, source }
          | none => return (position, { progress with source })

/-- Drift one step to a random side, if chance and neighbor allow it. -/
def drift? (table : ElementTable) (mover : Properties) (position : Position)
    (progress : StripProgress σ) : Option (Position × StripProgress σ) := do
  let (side, source) := drawSide? mover.spread progress.source
  let offsets := (side.map fun side => [⟨side, 0⟩]).getD []
  match ← progress.strip.entranceAmong? table mover position offsets with
  | some next => do
      let strip ← progress.strip.swap? position next
      return (next, { progress with strip, source })
  | none => return (position, { progress with source })

/-- Let the cell at a position move. -/
def move? (table : ElementTable) (position : Position) (progress : StripProgress σ) :
    Option (StripProgress σ) := do
  let cell ← progress.strip.read? position
  let mover := table.properties cell.element
  if cell.isEmpty || cell.moved || mover.direction = 0 then return progress
  else
    let limit := (progress.strip.stop - progress.strip.first).toNat
    let (steps, source) := mover.drawSteps limit progress.source
    let (lower, progress) ← descend? table mover steps position { progress with source }
    let (final, progress) ← drift? table mover lower progress
    if final = position then return progress
    else
      let strip ← progress.strip.mark? final
      return { progress with strip, tally := progress.tally.addMoved }

end StripProgress

/-! ## Nothing fails on the strip of a window -/

section Lists

variable {α β γ δ : Type}

theorem mapM_eq_some_map {f : α → Option β} {g : α → β} {items : List α}
    (agree : ∀ item ∈ items, f item = some (g item)) : items.mapM f = some (items.map g) := by
  induction items with
  | nil => rfl
  | cons item items induction =>
      obtain ⟨here, later⟩ := List.forall_mem_cons.mp agree
      simp [List.mapM_cons, here, induction later]

end Lists

variable {size : Size} {window : Window} {site : Site size} {board : Board size}
  {table : ElementTable} {mover : Properties}

theorem near_of_orthogonal {offset : Position} (listed : offset ∈ orthogonal) : offset.Near := by
  simp only [orthogonal, List.mem_cons, List.not_mem_nil, or_false] at listed
  rcases listed with rfl | rfl | rfl | rfl <;> exact ⟨by decide, by decide⟩

/-- One step to a side or to none, in the direction of travel or not, leads to a near position. -/
theorem Properties.near (mover : Properties) {x : Int} (across : x = 0 ∨ x = 1 ∨ x = -1) :
    (⟨x, mover.direction⟩ : Position).Near :=
  ⟨across, by rcases mover.direction_cases with down | up | still <;> simp [*]⟩

theorem Properties.near_of_diagonals (mover : Properties) {side : Int}
    (unit : side = 1 ∨ side = -1) {offset : Position}
    (listed : offset ∈ diagonals mover.direction side) : offset.Near := by
  simp only [diagonals, List.mem_cons, List.not_mem_nil, or_false] at listed
  rcases listed with rfl | rfl <;> exact mover.near (by omega)

namespace Strip

theorem around?_position {offsets : List Position} (near : ∀ offset ∈ offsets, offset.Near) :
    (board.strip window).around? offsets site.position =
      some ((window.around offsets site.position : List (Site size)).map Site.position) := by
  have injective : (Site.position : Site size → Position).Injective :=
    fun _ _ => Site.position_injective
  have found : (offsets.map (site.position + ·)).filterMap (board.strip window).resolve =
      (offsets.filterMap fun offset =>
        (window.resolve (site.position + offset) : Option (Site size))).map Site.position := by
    rw [List.filterMap_map, List.map_filterMap]
    exact List.filterMap_congr fun offset _ => resolve_strip _
  rw [around?, mapM_eq_some_map fun offset listed =>
    Position.shift?_position site (near offset listed)]
  simp only [Option.bind_eq_bind, Option.bind_some]
  rw [found, List.filter_map, eraseDups_map injective]
  rfl

section Entrances

variable (inside : window.rows.Inside size)

include inside

theorem entrance?_position {offset : Position} (near : offset.Near) :
    (board.strip window).entrance? table mover site.position offset =
      some ((board.entrance? table window mover site offset).map Site.position) := by
  rw [entrance?, Position.shift?_position site near, Board.entrance?]
  simp only [Option.bind_eq_bind, Option.bind_some, resolve_strip]
  cases found : (window.resolve (site.position + offset) : Option (Site size)) with
  | none => rfl
  | some target =>
      have same : target.position = site.position ↔ target = site :=
        ⟨Site.position_injective, congrArg Site.position⟩
      have cell : (board.strip window).read? target.position = some (board.cell target) :=
        read?_position inside (Window.contains_of_resolve found)
      simp only [Option.map_some, same, cell, Option.bind_some, Option.filter_some]
      by_cases stays : target = site
      · simp [stays]
      · cases table.canDisplace mover (board.cell target) <;> simp [stays]

theorem entranceAmong?_position {offsets : List Position}
    (near : ∀ offset ∈ offsets, offset.Near) :
    (board.strip window).entranceAmong? table mover site.position offsets =
      some ((offsets.findSome? (board.entrance? table window mover site)).map Site.position) := by
  induction offsets with
  | nil => rfl
  | cons offset offsets induction =>
      obtain ⟨here, later⟩ := List.forall_mem_cons.mp near
      rw [entranceAmong?, entrance?_position inside here, List.findSome?_cons]
      simp only [Option.bind_eq_bind, Option.bind_some]
      cases board.entrance? table window mover site offset with
      | none => exact induction later
      | some next => rfl

/-- A particle enters by an offset to the side that has been drawn, if one has. -/
theorem entranceAmong?_drawn {σ : Type} [RandomSource σ] {offsets : Int → List Position}
    (near : ∀ side, side = 1 ∨ side = -1 → ∀ offset ∈ offsets side, offset.Near) (chance : Single)
    (source : σ) :
    (board.strip window).entranceAmong? table mover site.position
        (((drawSide? chance source).1.map offsets).getD []) =
      some (((drawSide? chance source).1.bind fun side =>
        (offsets side).findSome? (board.entrance? table window mover site)).map Site.position) := by
  cases drawn : (drawSide? chance source).1 with
  | none => rfl
  | some side => exact entranceAmong?_position inside (near side (drawSide?_cases drawn))

end Entrances

end Strip

namespace StripProgress

variable {σ : Type} [RandomSource σ] {rules : RuleSet}

variable (inside : window.rows.Inside size) (contained : window.rows.contains site.y = true)
  (progress : Progress size σ)

include inside contained

theorem change?_onStrip :
    (progress.onStrip window).change? rules site.position =
      some ((progress.change rules site).2.onStrip window) := by
  rw [change?, Progress.strip_onStrip, Strip.read?_position inside contained, Progress.change]
  simp only [Option.bind_eq_bind, Option.bind_some, Progress.source_onStrip]
  rcases rules.tryTransition (progress.board.cell site).element progress.source with
    ⟨_ | target, source⟩
  · rfl
  · simp only [Strip.write?_position inside contained, Option.bind_some]
    rfl

theorem actOn?_onStrip {element : ElementId} {neighbors : List (Site size)}
    (reached : ∀ neighbor ∈ neighbors, window.rows.contains neighbor.y = true) :
    (progress.onStrip window).actOn? rules site.position element
        (neighbors.map Site.position) =
      some ((Progress.actOn rules site element neighbors progress).2.onStrip window) := by
  induction neighbors generalizing progress with
  | nil => rfl
  | cons neighbor neighbors induction =>
      obtain ⟨here, later⟩ := List.forall_mem_cons.mp reached
      rw [List.map_cons, actOn?, Progress.strip_onStrip, Strip.read?_position inside here,
        Progress.actOn]
      simp only [Option.bind_eq_bind, Option.bind_some, Progress.source_onStrip]
      split
      · exact induction progress later
      · rcases rules.tryReact element (progress.board.cell neighbor).element progress.source with
          ⟨_ | ⟨left, right⟩, source⟩
        · exact induction { progress with source } later
        · simp only [Strip.write?_position inside contained, Strip.write?_position inside here,
            Option.bind_some]
          rfl

theorem react?_onStrip :
    (progress.onStrip window).react? rules site.position =
      some ((progress.react rules window site).2.onStrip window) := by
  rw [react?, Progress.strip_onStrip, Strip.read?_position inside contained, Progress.react]
  simp only [Option.bind_eq_bind, Option.bind_some, Progress.source_onStrip]
  split
  · rfl
  · have drawn (offset : Position) :
        offset ∈ (shuffle orthogonal.toArray progress.source).1.toList → offset ∈ orthogonal := by
      simp [mem_shuffle]
    rw [shuffle?_eq_some, Option.bind_some]
    generalize shuffle orthogonal.toArray progress.source = offsets at drawn
    rw [Strip.around?_position fun offset given => near_of_orthogonal (drawn offset given),
      Option.bind_some]
    refine actOn?_onStrip inside contained { progress with source := offsets.2 } ?_
    intro neighbor listed
    obtain ⟨⟨offset, -, found⟩, -⟩ := Window.mem_around.mp listed
    exact Window.contains_of_resolve found

/-! ### Moving -/

theorem descend?_onStrip (steps : Nat) :
    (progress.onStrip window).descend? table mover steps site.position =
      some ((Progress.descend table window mover steps site progress).1.position,
        (Progress.descend table window mover steps site progress).2.onStrip window) := by
  induction steps generalizing site progress with
  | zero => rfl
  | succ steps induction =>
      have ahead : (⟨0, mover.direction⟩ : Position).Near := mover.near (Or.inl rfl)
      have slide : (progress.board.strip window).entranceAmong? table mover site.position
          (((drawSide? mover.slide progress.source).1.map (diagonals mover.direction)).getD []) =
          some ((progress.drawSlide? table window mover site).1.map Site.position) :=
        Strip.entranceAmong?_drawn inside
          (fun _ unit _ listed => mover.near_of_diagonals unit listed) mover.slide progress.source
      rw [descend?, Progress.strip_onStrip, Strip.entrance?_position inside ahead]
      unfold Progress.descend
      simp only [Option.bind_eq_bind, Option.bind_some, Progress.source_onStrip]
      cases entered : progress.board.entrance? table window mover site ⟨0, mover.direction⟩ with
      | some next =>
          have arrives := Progress.contains_of_entrance? entered
          simp only [Option.map_some, Strip.swap?_position inside contained arrives,
            Option.bind_some]
          exact induction arrives (progress.exchange site next)
      | none =>
          simp only [Option.map_none, slide, Option.bind_some]
          cases slides : (progress.drawSlide? table window mover site).1 with
          | none => rfl
          | some next =>
              have arrives := Progress.contains_of_drawSlide? slides
              simp only [Option.map_some, Strip.swap?_position inside contained arrives,
                Option.bind_some]
              exact induction arrives (Progress.exchange { progress with
                source := (progress.drawSlide? table window mover site).2 } site next)

theorem drift?_onStrip :
    (progress.onStrip window).drift? table mover site.position =
      some ((Progress.drift table window mover site progress).1.position,
        (Progress.drift table window mover site progress).2.onStrip window) := by
  have aside (side : Int) (unit : side = 1 ∨ side = -1) :
      ∀ offset ∈ [(⟨side, 0⟩ : Position)], offset.Near := by
    rw [List.forall_mem_singleton]
    exact ⟨Or.inr unit, Or.inl rfl⟩
  rw [drift?, Progress.strip_onStrip]
  unfold Progress.drift
  simp only [Option.bind_eq_bind, Progress.source_onStrip,
    Strip.entranceAmong?_drawn inside aside, Option.bind_some, List.findSome?_singleton]
  cases found : (drawSide? mover.spread progress.source).1.bind fun side =>
      progress.board.entrance? table window mover site ⟨side, 0⟩ with
  | none => rfl
  | some next =>
      obtain ⟨side, -, entered⟩ := Option.bind_eq_some_iff.mp found
      have arrives := Progress.contains_of_entrance? entered
      simp only [Option.map_some, Strip.swap?_position inside contained arrives, Option.bind_some]
      rfl

theorem move?_onStrip :
    (progress.onStrip window).move? table site.position =
      some ((progress.move table window site).2.onStrip window) := by
  have limit : ((progress.board.strip window).stop - (progress.board.strip window).first).toNat =
      window.rows.count := by
    simp only [Board.strip, Rows.count]
    omega
  rw [move?, Progress.strip_onStrip, Strip.read?_position inside contained, Progress.move]
  simp only [Option.bind_eq_bind, Option.bind_some, limit, Progress.source_onStrip]
  split
  · rfl
  · generalize table.properties (progress.board.cell site).element = mover
    generalize mover.drawSteps window.rows.count progress.source = drawn
    let start : Progress size σ := { progress with source := drawn.2 }
    have lower := Progress.contains_descend table mover drawn.1 start contained
    change ((start.onStrip window).descend? table mover drawn.1 site.position).bind _ = _
    rw [descend?_onStrip inside contained]
    generalize Progress.descend table window mover drawn.1 site start = lowered at lower
    have final := Progress.contains_drift table mover lowered.2 lower
    rw [Option.bind_some]
    dsimp only
    rw [drift?_onStrip inside lower]
    generalize Progress.drift table window mover lowered.1 lowered.2 = arrived at final
    have stays : arrived.1.position = site.position ↔ arrived.1 = site :=
      ⟨Site.position_injective, congrArg Site.position⟩
    simp only [Option.bind_some, stays]
    split
    · rfl
    · rw [Progress.strip_onStrip, Strip.mark?_position inside final]
      rfl

end StripProgress

end FallingSand
