import FallingSand.Grid.Window
import FallingSand.Turn.Progress

/-!
# Moving

In its turn to move, a cell whose element has gravity steps up or down, slips off diagonally when it
is blocked, and drifts sideways.  It may enter an unoccupied cell, or change places with a mobile
one that has not moved yet and is lighter in its direction of travel.  What rests is never
displaced.
-/

namespace FallingSand

/-! ## Who may enter -/

/-- Whether a particle passes through another one: while falling if it is denser, while rising if it
is less dense. -/
def Properties.outweighs (mover other : Properties) : Bool :=
  if mover.direction = 1 then other.density.lt mover.density
  else if mover.direction = -1 then mover.density.lt other.density
  else false

namespace ElementTable

/-- Whether a particle may take the place of a cell. -/
def canDisplace (table : ElementTable) (mover : Properties) (target : Cell) : Bool :=
  target.isEmpty ||
    (!target.moved && (table.properties target.element).isMobile &&
      mover.outweighs (table.properties target.element))

end ElementTable

/-- The site that a particle enters when it moves from a site by an offset, if it can. -/
def Board.entrance? {size : Size} (board : Board size) (table : ElementTable) (window : Window)
    (mover : Properties) (site : Site size) (offset : Position) : Option (Site size) :=
  (window.resolve (site.position + offset)).filter fun target =>
    target ≠ site && table.canDisplace mover (board.cell target)

/-! ## How far -/

section Drawing

variable {σ : Type} [RandomSource σ]

/-- The number of vertical steps of a tick: the whole part of the gravity, and one more with its
fractional part as the chance, but never more than there are rows. -/
def Properties.drawSteps (properties : Properties) (limit : Nat) (source : σ) : Nat × σ :=
  let strength := properties.gravity.abs
  let whole := min strength.wholePart (Number.BinaryFormat.single.nearestNat limit)
  let fraction := strength.fractionPart
  let (more, source) :=
    if fraction.isPositive then RandomSource.chance fraction source else (false, source)
  (min (if more then whole + 1 else whole) limit, source)

/-- With the given chance, draw a side. -/
def drawSide? (chance : Single) (source : σ) : Option Int × σ :=
  if chance.isPositive then
    let (happens, source) := RandomSource.chance (chance.min Single.one) source
    if happens then
      let (side, source) := RandomSource.side source
      (some side, source)
    else (none, source)
  else (none, source)

end Drawing

namespace Progress

variable {size : Size} {σ : Type} [RandomSource σ]

/-! ## One particle -/

/-- Draw whether and where a blocked particle slips off: diagonally ahead, on a random side
first. -/
def drawSlide? (table : ElementTable) (window : Window) (mover : Properties) (site : Site size)
    (progress : Progress size σ) : Option (Site size) × σ :=
  let (side, source) := drawSide? mover.slide progress.source
  (side.bind fun side =>
    (diagonals mover.direction side).findSome?
      (progress.board.entrance? table window mover site),
    source)

/-- Take vertical steps until they are used up or the particle is stuck. -/
def descend (table : ElementTable) (window : Window) (mover : Properties) :
    (steps : Nat) → Site size → Progress size σ → Site size × Progress size σ
  | 0, site, progress => (site, progress)
  | steps + 1, site, progress =>
      match progress.board.entrance? table window mover site ⟨0, mover.direction⟩ with
      | some next => descend table window mover steps next (progress.exchange site next)
      | none =>
          let (slide, source) := progress.drawSlide? table window mover site
          let progress := { progress with source }
          match slide with
          | some next => descend table window mover steps next (progress.exchange site next)
          | none => (site, progress)

/-- Drift one step to a random side, if chance and neighbor allow it. -/
def drift (table : ElementTable) (window : Window) (mover : Properties) (site : Site size)
    (progress : Progress size σ) : Site size × Progress size σ :=
  let (side, source) := drawSide? mover.spread progress.source
  let progress := { progress with source }
  match side.bind fun side => progress.board.entrance? table window mover site ⟨side, 0⟩ with
  | some next => (next, progress.exchange site next)
  | none => (site, progress)

/-- Let the cell at a site move; tells where it went, if it moved. -/
def move (table : ElementTable) (window : Window) (site : Site size)
    (progress : Progress size σ) : Option (Site size) × Progress size σ :=
  let cell := progress.board.cell site
  let mover := table.properties cell.element
  if cell.isEmpty || cell.moved || mover.direction = 0 then (none, progress)
  else
    let (steps, source) := mover.drawSteps window.rows.count progress.source
    let (lower, progress) := descend table window mover steps site { progress with source }
    let (final, progress) := drift table window mover lower progress
    if final = site then (none, progress)
    else
      let arrived := (progress.board.cell final).markMoved
      (some final,
        { progress with
          board := progress.board.put final arrived
          tally := progress.tally.addMoved })

/-! ## All particles -/

/-- A particle waiting for its turn to move. -/
structure Mover (size : Size) where
  /-- Where it waits. -/
  site : Site size
  /-- Rank of its density in its direction of travel. -/
  weight : Int
  /-- How far it is along its direction of travel. -/
  advance : Int

namespace Mover

/-- The particle at a site, if it can move. -/
def find? (table : ElementTable) (board : Board size) (site : Site size) : Option (Mover size) :=
  let properties := table.properties (board.cell site).element
  let direction := properties.direction
  if direction = 0 then none
  else
    let weight := if direction = 1 then properties.density else properties.density.neg
    some { site, weight := weight.totalRank, advance := site.y.val * direction }

/-- Heavier particles go first, and of equally heavy ones those nearest their destination. -/
def goesBefore (first second : Mover size) : Bool :=
  second.weight < first.weight ||
    (first.weight == second.weight && second.advance ≤ first.advance)

end Mover

/-- Let every particle of some rows move once.  Particles that may go in any order go in a random
one. -/
def moveAll (table : ElementTable) (window : Window) (rows : Rows)
    (progress : Progress size σ) : Progress size σ :=
  let movers := (size.sites rows).filterMap (Mover.find? table progress.board)
  let (movers, source) := shuffle movers.toArray progress.source
  (movers.toList.mergeSort Mover.goesBefore).foldl
    (fun progress mover => (progress.move table window mover.site).2) { progress with source }

end Progress
end FallingSand
