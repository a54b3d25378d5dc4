import FallingSand.Proofs.Turn.Outcome

/-!
# Steps beyond the height of the window

Every vertical step leads one row on, so after as many steps as there are rows a particle has been
stopped, by the end of the window at the latest.  What it would do with more steps is the same: it
draws the same, goes the same way and ends its turn with the same board.  So the number of steps may
be limited by the number of rows.

The limit of a turn is that number in single precision, which cannot hold all the digits of a great
one.  Where it is rounded down, a particle that falls freely may be stopped too early.
-/

namespace FallingSand

variable {size : Size} {σ : Type} [RandomSource σ] {table : ElementTable} {window : Window}
  {mover : Properties} {site : Site size}

namespace Progress

/-! ## Steps that are not taken -/

/-- One vertical step more is not taken if all rows of the window lie fewer steps ahead. -/
theorem descend_succ_of_room (travels : mover.direction ≠ 0)
    (inside : window.rows.contains site.y = true) (progress : Progress size σ) {steps : Nat}
    (room : ∀ row : Nat, window.rows.contains row = true →
      ((row : Int) - site.y.val) * mover.direction < steps) :
    descend table window mover (steps + 1) site progress =
      descend table window mover steps site progress := by
  induction steps generalizing site progress with
  | zero =>
      have here := room site.y inside
      rw [sub_self, zero_mul] at here
      omega
  | succ steps induction =>
      -- a step ahead leaves one step less, and one row less to go
      have further {next : Site size} (row : (next.y.val : Int) = site.y.val + mover.direction) :
          ∀ row : Nat, window.rows.contains row = true →
            ((row : Int) - next.y.val) * mover.direction < steps := by
        intro other reached
        have before := room other reached
        rcases mover.direction_cases with down | up | rests
        · rw [down] at before row ⊢
          omega
        · rw [up] at before row ⊢
          omega
        · exact absurd rests travels
      rw [descend_add_one, descend_add_one]
      split
      · rename_i next found
        exact induction (contains_of_entrance? found) _ (further (Board.row_of_entrance? found))
      · dsimp only
        split
        · rename_i next slides
          exact induction (contains_of_drawSlide? slides) _ (further (row_of_drawSlide? slides))
        · rfl

/-- All rows of a window lie fewer steps ahead than there are rows. -/
theorem room_of_count (mover : Properties) {y : Nat} (inside : window.rows.contains y = true)
    {steps : Nat} (enough : window.rows.count ≤ steps) (row : Nat)
    (reached : window.rows.contains row = true) :
    ((row : Int) - y) * mover.direction < steps := by
  rw [Rows.contains_iff] at inside reached
  rw [Rows.count] at enough
  rcases mover.direction_cases with down | up | rests
  · rw [down]
    omega
  · rw [up]
    omega
  · rw [rests]
    omega

/-- Vertical steps beyond the number of rows of the window change nothing. -/
theorem descend_of_count_le (travels : mover.direction ≠ 0)
    (inside : window.rows.contains site.y = true) (progress : Progress size σ) {steps : Nat}
    (enough : window.rows.count ≤ steps) :
    descend table window mover steps site progress =
      descend table window mover window.rows.count site progress := by
  induction steps, enough using Nat.le_induction with
  | base => rfl
  | succ steps enough induction =>
      rw [descend_succ_of_room travels inside progress (room_of_count mover inside enough),
        induction]

theorem descend_min_count (travels : mover.direction ≠ 0)
    (inside : window.rows.contains site.y = true) (progress : Progress size σ) (steps : Nat) :
    descend table window mover (min steps window.rows.count) site progress =
      descend table window mover steps site progress := by
  rcases Nat.le_total steps window.rows.count with few | many
  · rw [Nat.min_eq_left few]
  · rw [Nat.min_eq_right many, descend_of_count_le travels inside progress many]

/-! ## Free fall -/

omit [RandomSource σ] in
/-- A falling particle may enter the site below it if that is unoccupied and within reach. -/
theorem entrance?_below {board : Board size} (falls : mover.direction = 1) {next : Site size}
    (column : next.x = site.x) (below : next.y.val = site.y.val + 1)
    (reached : window.rows.contains next.y = true) (free : (board.cell next).isEmpty = true) :
    board.entrance? table window mover site ⟨0, mover.direction⟩ = some next := by
  have ahead : site.position + ⟨0, mover.direction⟩ = next.position := by
    rw [falls, Site.position, Site.position, column, below]
    rfl
  have apart : next ≠ site := by
    rintro rfl
    omega
  rw [Board.entrance?, ahead, Window.resolve_position window reached]
  simp [Option.filter, apart, ElementTable.canDisplace, free]

/-- In the last row of a window no vertical step leads further down. -/
theorem descend_of_last (falls : mover.direction = 1) (last : window.rows.stop = site.y.val + 1)
    (steps : Nat) (progress : Progress size σ) :
    (descend table window mover steps site progress).1 = site := by
  have beyond {next : Site size} (reached : window.rows.contains next.y = true)
      (below : (next.y.val : Int) = site.y.val + mover.direction) : False := by
    rw [Rows.contains_iff] at reached
    omega
  cases steps with
  | zero => rfl
  | succ steps =>
      rw [descend_add_one]
      split
      · rename_i next found
        exact (beyond (contains_of_entrance? found) (Board.row_of_entrance? found)).elim
      · dsimp only
        split
        · rename_i next slides
          exact (beyond (contains_of_drawSlide? slides) (row_of_drawSlide? slides)).elim
        · rfl

/-- Above unoccupied cells a particle falls straight down, a row with each step, as far as the
window reaches. -/
theorem descend_free (falls : mover.direction = 1) (inside : window.rows.contains site.y = true)
    (progress : Progress size σ)
    (free : ∀ other : Site size, site.y < other.y → (progress.board.cell other).isEmpty = true)
    {steps : Nat} {final : Site size} (column : final.x = site.x)
    (row : final.y.val = min (site.y.val + steps) (window.rows.stop - 1)) :
    (descend table window mover steps site progress).1 = final := by
  have arrived {site : Site size} (column : final.x = site.x)
      (level : final.y.val = site.y.val) : site = final :=
    Site.position_injective (by simp only [Site.position, column, level])
  induction steps generalizing site progress with
  | zero =>
      have reach := ((Rows.contains_iff _ _).mp inside).2
      have level : final.y.val = site.y.val := by omega
      exact arrived column level
  | succ steps induction =>
      obtain ⟨first, reach⟩ := (Rows.contains_iff _ _).mp inside
      by_cases last : window.rows.stop = site.y.val + 1
      · have level : final.y.val = site.y.val := by omega
        rw [descend_of_last falls last]
        exact arrived column level
      · have bottom := final.y.isLt
        let next : Site size := ⟨site.x, ⟨site.y.val + 1, by omega⟩⟩
        have higher : site.y.val + 1 < window.rows.stop := by omega
        have reached : window.rows.contains next.y = true :=
          (Rows.contains_iff _ _).mpr ⟨Nat.le_succ_of_le first, higher⟩
        have below : site.y < next.y := Fin.lt_def.mpr (Nat.lt_succ_self _)
        have apart {upper other : Site size} (lower : upper.y < other.y) : other ≠ upper := by
          rintro rfl
          exact lt_irrefl _ lower
        have enters : progress.board.entrance? table window mover site ⟨0, mover.direction⟩ =
            some next := entrance?_below falls rfl rfl reached (free next below)
        rw [descend_add_one, enters]
        refine induction reached _ (fun other (lower : next.y < other.y) => ?_) column ?_
        · have deeper : site.y < other.y := lt_trans below lower
          rw [exchange, Board.cell_exchange, if_neg (apart lower), if_neg (apart deeper)]
          exact free other deeper
        · dsimp only [next]
          omega

/-! ## Turns without a limit -/

/-- The turn of the cell at a site to move when the number of its vertical steps is drawn as
given. -/
def moveBy (draw : Properties → σ → Nat × σ) (table : ElementTable) (window : Window)
    (site : Site size) (progress : Progress size σ) : Option (Site size) × Progress size σ :=
  let cell := progress.board.cell site
  let mover := table.properties cell.element
  if cell.isEmpty || cell.moved || mover.direction = 0 then (none, progress)
  else
    let (steps, source) := draw mover progress.source
    let (final, progress) := travel table window mover steps site { progress with source }
    if final = site then (none, progress)
    else
      let arrived := (progress.board.cell final).markMoved
      (some final,
        { progress with
          board := progress.board.put final arrived
          tally := progress.tally.addMoved })

theorem move_eq_moveBy (table : ElementTable) (window : Window) (site : Site size)
    (progress : Progress size σ) :
    progress.move table window site =
      progress.moveBy (fun mover => mover.drawSteps window.rows.count) table window site := by
  rw [move, moveBy]
  rfl

/-- Two ways of drawing the steps make no difference if what has a direction of travel goes the
same way with either. -/
theorem moveBy_congr {draw other : Properties → σ → Nat × σ} (progress : Progress size σ)
    (source : ∀ mover, (draw mover progress.source).2 = (other mover progress.source).2)
    (way : ∀ (mover : Properties) (progress' : Progress size σ), mover.direction ≠ 0 →
      descend table window mover (draw mover progress.source).1 site progress' =
        descend table window mover (other mover progress.source).1 site progress') :
    progress.moveBy draw table window site = progress.moveBy other table window site := by
  rw [moveBy, moveBy]
  dsimp only
  split
  · rfl
  · rename_i able
    have travels := (Board.able_iff.mpr able).travels
    rw [travel, travel, source, way _ _ travels]

/-- A particle that falls freely and does not drift ends its turn in the row that its steps lead
to, or else in the last one. -/
theorem fst_moveBy_free {draw : Properties → σ → Nat × σ} {progress : Progress size σ}
    (able : progress.board.Able table site)
    (stands : table.properties (progress.board.cell site).element = mover)
    (falls : mover.direction = 1) (straight : mover.spread.isPositive = false)
    (inside : window.rows.contains site.y = true)
    (free : ∀ other : Site size, site.y < other.y → (progress.board.cell other).isEmpty = true)
    {final : Site size} (elsewhere : final ≠ site) (column : final.x = site.x)
    (row : final.y.val =
      min (site.y.val + (draw mover progress.source).1) (window.rows.stop - 1)) :
    (progress.moveBy draw table window site).1 = some final := by
  let start : Progress size σ := { progress with source := (draw mover progress.source).2 }
  have arrives : (travel table window mover (draw mover progress.source).1 site start).1 =
      final := by
    rw [travel, drift]
    simp only [drawSide?, straight, Bool.false_eq_true, if_false, Option.bind_none]
    exact descend_free falls inside start free column row
  rw [moveBy]
  dsimp only
  rw [if_neg (Board.able_iff.mp able), stands]
  exact (congrArg Prod.fst (if_neg (arrives ▸ elsewhere))).trans (congrArg some arrives)

end Progress

/-- The number of vertical steps of a tick without a limit: the whole part of the gravity, and one
more with its fractional part as the chance. -/
def Properties.drawAllSteps (properties : Properties) (source : σ) : Nat × σ :=
  let strength := properties.gravity.abs
  let fraction := strength.fractionPart
  let (more, source) :=
    if fraction.isPositive then RandomSource.chance fraction source else (false, source)
  (if more then strength.wholePart + 1 else strength.wholePart, source)

/-- A limit that is not rounded down bounds the number of steps and does nothing else. -/
theorem Properties.drawSteps_eq_min (properties : Properties) (source : σ) {limit : Nat}
    (unrounded : limit ≤ Number.BinaryFormat.single.nearestNat limit) :
    properties.drawSteps limit source =
      (min (properties.drawAllSteps source).1 limit, (properties.drawAllSteps source).2) := by
  rw [drawSteps, drawAllSteps]
  generalize (if properties.gravity.abs.fractionPart.isPositive then
    RandomSource.chance properties.gravity.abs.fractionPart source else (false, source)) = drawn
  dsimp only
  refine Prod.ext ?_ rfl
  dsimp only
  split <;> omega

namespace Progress

/-- From a site of a window, vertical steps beyond the number of its rows change neither where the
particle goes nor the board nor what is drawn on the way.  So a turn whose number of steps is drawn
in any way is the same turn if that number is limited by the number of rows.  The limit in a turn to
move is the number of rows in single precision.  Unless that rounds it down, which it can only do
beyond `2 ^ 24` rows, the turn is the one without a limit. -/
theorem cap_unobservable (table : ElementTable) (window : Window) (progress : Progress size σ)
    (inside : window.rows.contains site.y = true) :
    let rows := window.rows.count
    (∀ (mover : Properties) (steps : Nat), mover.direction ≠ 0 → rows ≤ steps →
      descend table window mover steps site progress =
        descend table window mover rows site progress) ∧
    (∀ draw : Properties → σ → Nat × σ,
      progress.moveBy (fun mover source => (min (draw mover source).1 rows, (draw mover source).2))
          table window site =
        progress.moveBy draw table window site) ∧
    (rows ≤ Number.BinaryFormat.single.nearestNat rows →
      progress.move table window site =
        progress.moveBy Properties.drawAllSteps table window site) := by
  intro rows
  have capped (draw : Properties → σ → Nat × σ) :
      progress.moveBy (fun mover source => (min (draw mover source).1 rows, (draw mover source).2))
          table window site =
        progress.moveBy draw table window site :=
    moveBy_congr progress (fun _ => rfl)
      fun _ start travels => descend_min_count travels inside start _
  refine ⟨fun mover steps travels enough => ?_, capped, fun unrounded => ?_⟩
  · exact descend_of_count_le travels inside progress enough
  · rw [move_eq_moveBy, ← capped Properties.drawAllSteps]
    congr 1
    funext mover source
    exact mover.drawSteps_eq_min source unrounded

theorem shaft_cap_unobservable :
    let before := start (dropped ⟨1⟩) (Script.ofDraws #[])
    let top := shaftSite ⟨0, by decide⟩
    let window : Window := ⟨.wrap, ⟨0, 3⟩⟩
    let sand := pouring.elements.properties ⟨1⟩
    window.rows.contains 0 = true ∧ sand.direction ≠ 0 ∧ window.rows.count ≤ 1000 ∧
      window.rows.count ≤ Number.BinaryFormat.single.nearestNat window.rows.count ∧
      descend pouring.elements window sand 1000 top before =
        descend pouring.elements window sand 3 top before ∧
      before.move pouring.elements window top =
        before.moveBy Properties.drawAllSteps pouring.elements window top := by
  intro before top window sand
  have inside : window.rows.contains top.y = true := by decide
  have travels : sand.direction ≠ 0 := by decide
  have enough : window.rows.count ≤ 1000 := by decide
  have unrounded : window.rows.count ≤
      Number.BinaryFormat.single.nearestNat window.rows.count :=
    (Number.nearestNat_of_lt (by decide)).ge
  have same := cap_unobservable pouring.elements window before inside
  exact ⟨inside, travels, enough, unrounded, same.1 sand 1000 travels enough, same.2.2 unrounded⟩

/-! ## A limit that is felt -/

/-- One column, of a height that single precision rounds down by two. -/
def abyss : Size := ⟨1, 2 ^ 25 + 2, Nat.one_pos, by decide, by decide⟩

/-- A row of the abyss. -/
def abyssSite (row : Fin (2 ^ 25 + 2)) : Site abyss := ⟨⟨0, Nat.one_pos⟩, row⟩

/-- The only grain in the abyss, at the top. -/
def plunged : Board abyss :=
  (Board.empty abyss).put (abyssSite 0) (Cell.ofElement ⟨1⟩)

/-- Sand that falls through forty million rows in a tick. -/
def plunging : ElementTable where
  entries := #[pouring.elements.get ElementId.empty,
    { pouring.elements.get ⟨1⟩ with properties := { Properties.none with gravity := 40000000 } }]
  size_pos := by decide

theorem cell_plunged : plunged.cell (abyssSite 0) = Cell.ofElement ⟨1⟩ :=
  Board.cell_put_self _ _ _

theorem isEmpty_plunged {site : Site abyss} (below : (abyssSite 0).y < site.y) :
    (plunged.cell site).isEmpty = true := by
  have apart : site ≠ abyssSite 0 := by
    rintro rfl
    exact lt_irrefl _ below
  rw [plunged, Board.cell_put_of_ne _ _ apart]
  exact Board.isEmpty_cell_empty site

theorem able_plunged : plunged.Able plunging (abyssSite 0) := by
  constructor
  · rw [cell_plunged]
    rfl
  · rw [cell_plunged]
    rfl
  · rw [cell_plunged]
    decide +kernel

/-- Where the grain ends its turn depends on the number of its steps alone. -/
theorem fst_moveBy_plunged (draw : Properties → σ → Nat × σ) (source : σ)
    {row : Fin (2 ^ 25 + 2)} (elsewhere : row ≠ 0)
    (fallen : row.val = min (draw (plunging.properties ⟨1⟩) source).1 (2 ^ 25 + 1)) :
    ((start plunged source).moveBy draw plunging (Window.whole abyss .wall) (abyssSite 0)).1 =
      some (abyssSite row) := by
  have stands : plunging.properties (plunged.cell (abyssSite 0)).element =
      plunging.properties ⟨1⟩ := by
    rw [cell_plunged]
    rfl
  have falls : (plunging.properties ⟨1⟩).direction = 1 := by decide +kernel
  have straight : (plunging.properties ⟨1⟩).spread.isPositive = false := by decide
  refine fst_moveBy_free able_plunged stands falls straight (by decide)
    (fun _ below => isEmpty_plunged below) (fun same => elsewhere (congrArg Site.y same)) rfl ?_
  rw [← Nat.zero_add (draw _ _).1] at fallen
  exact fallen

/-- In the abyss the limit is `2 ^ 25` instead of `2 ^ 25 + 2`.  It stops the grain in the last row
but one, although the row below is unoccupied and the grain reaches it without a limit. -/
theorem abyss_cap_observable :
    let before := start plunged (Script.ofDraws #[])
    let window := Window.whole abyss .wall
    window.rows.contains 0 = true ∧
      (before.move plunging window (abyssSite 0)).1 = some (abyssSite ⟨2 ^ 25, by decide⟩) ∧
      (before.moveBy Properties.drawAllSteps plunging window (abyssSite 0)).1 =
        some (abyssSite ⟨2 ^ 25 + 1, by decide⟩) ∧
      before.move plunging window (abyssSite 0) ≠
        before.moveBy Properties.drawAllSteps plunging window (abyssSite 0) := by
  intro before window
  have capped : (before.move plunging window (abyssSite 0)).1 =
      some (abyssSite ⟨2 ^ 25, by decide⟩) := by
    rw [move_eq_moveBy]
    exact fst_moveBy_plunged _ _ (by decide) (by decide +kernel)
  have uncapped : (before.moveBy Properties.drawAllSteps plunging window (abyssSite 0)).1 =
      some (abyssSite ⟨2 ^ 25 + 1, by decide⟩) :=
    fst_moveBy_plunged _ _ (by decide) (by decide +kernel)
  refine ⟨by decide, capped, uncapped, fun same => ?_⟩
  rw [same, uncapped] at capped
  exact absurd (congrArg Site.y (Option.some.inj capped)) (by decide)

end Progress
end FallingSand
