import FallingSand.Proofs.Grid.Adjacency
import FallingSand.Turn.Motion

/-!
# How a particle moves

All that a particle does to the board is to change places, again and again, with a cell that a king
could reach and that it may displace.  What such exchanges keep, the whole move keeps.  A turn is
the way that a particle goes, with a mark at its end if it leads anywhere.
-/

namespace FallingSand

/-! ## Directions -/

namespace Single

theorem rank_eq_zero {x : Single} (null : x.isZero = true) : x.rank = 0 := by
  have magnitude : x.magnitude = 0 := by simpa [isZero] using null
  simp [rank, magnitude]

end Single

namespace Properties

variable {properties : Properties}

/-- What has a direction of travel can be displaced. -/
theorem isMobile_of_direction (travels : properties.direction ≠ 0) :
    properties.isMobile = true := by
  by_contra rests
  have null : properties.gravity.rank = 0 := Single.rank_eq_zero (by simpa [isMobile] using rests)
  have origin : Single.zero.rank = 0 := rfl
  refine travels ?_
  simp [direction, Single.isPositive, Single.isBelowZero, Single.lt, null, origin]

end Properties

/-! ## Entering a site -/

/-- A particle that is at a site may change places with the cell at the next one. -/
structure Board.Enters {size : Size} (board : Board size) (table : ElementTable) (edge : Edge)
    (mover : Properties) (site next : Site size) : Prop where
  /-- A king can step there. -/
  adjacent : KingAdjacent edge site next
  /-- It lies in the same row or in the next one in the direction of travel. -/
  ahead : (next.y : Int) = site.y ∨ (next.y : Int) = site.y + mover.direction
  /-- The particle may take the place of the cell. -/
  displaces : table.canDisplace mover (board.cell next) = true

variable {size : Size} {σ : Type} [RandomSource σ] {table : ElementTable} {window : Window}
  {mover : Properties}

theorem enters_of_entrance? {board : Board size} {site next : Site size} {offset : Position}
    (found : board.entrance? table window mover site offset = some next)
    (across : offset.x = 0 ∨ offset.x = 1 ∨ offset.x = -1)
    (along : offset.y = 0 ∨ offset.y = mover.direction) :
    board.Enters table window.edge mover site next := by
  obtain ⟨reached, allowed⟩ := Option.filter_eq_some_iff.mp found
  simp only [ne_eq, decide_not, Bool.and_eq_true, Bool.not_eq_true', decide_eq_false_iff_not]
    at allowed
  have unit : offset.y = 0 ∨ offset.y = 1 ∨ offset.y = -1 := by
    have directions := mover.direction_cases
    omega
  have row : site.y.val + offset.y = next.y.val := (Window.resolve_eq_some reached).1
  exact ⟨Window.kingAdjacent_of_resolve reached allowed.1 across unit, by omega, allowed.2⟩

theorem drawSide?_cases {chance : Single} {source : σ} {side : Int}
    (drawn : (drawSide? chance source).1 = some side) : side = 1 ∨ side = -1 := by
  rw [drawSide?] at drawn
  split at drawn
  · dsimp only at drawn
    split at drawn
    · obtain rfl := Option.some.inj drawn
      rw [RandomSource.side]
      dsimp only
      split
      · exact Or.inr rfl
      · exact Or.inl rfl
    · cases drawn
  · cases drawn

namespace Progress

variable {P : Site size → Board size → Prop}

theorem enters_of_drawSlide? {site next : Site size} {progress : Progress size σ}
    (slides : (progress.drawSlide? table window mover site).1 = some next) :
    progress.board.Enters table window.edge mover site next := by
  obtain ⟨side, drawn, found⟩ := Option.bind_eq_some_iff.mp slides
  obtain ⟨offset, listed, entered⟩ := List.exists_of_findSome?_eq_some found
  have sides := drawSide?_cases drawn
  refine enters_of_entrance? entered ?_ ?_ <;>
    simp only [diagonals, List.mem_cons, List.not_mem_nil, or_false] at listed <;>
      rcases listed with rfl | rfl <;> dsimp only <;> omega

/-- With steps left, a particle goes straight ahead if it can, or else slips off to a side that it
draws, and goes on from there. -/
theorem descend_add_one (table : ElementTable) (window : Window) (mover : Properties) (steps : Nat)
    (site : Site size) (progress : Progress size σ) :
    descend table window mover (steps + 1) site progress =
      match progress.board.entrance? table window mover site ⟨0, mover.direction⟩ with
      | some next => descend table window mover steps next (progress.exchange site next)
      | none =>
          let (slide, source) := progress.drawSlide? table window mover site
          let progress := { progress with source }
          match slide with
          | some next => descend table window mover steps next (progress.exchange site next)
          | none => (site, progress) := rfl

/-- What every exchange keeps, the vertical steps keep. -/
theorem descend_induction
    (kept : ∀ site next board, board.Enters table window.edge mover site next → P site board →
      P next (board.exchange site next))
    (steps : Nat) (site : Site size) (progress : Progress size σ) (holds : P site progress.board) :
    P (descend table window mover steps site progress).1
      (descend table window mover steps site progress).2.board := by
  induction steps generalizing site progress with
  | zero => exact holds
  | succ steps ih =>
      rw [descend_add_one]
      split
      · rename_i next found
        have enters : progress.board.Enters table window.edge mover site next :=
          enters_of_entrance? found (Or.inl rfl) (Or.inr rfl)
        exact ih _ _ (kept site next _ enters holds)
      · dsimp only
        split
        · rename_i next slides
          have enters : progress.board.Enters table window.edge mover site next :=
            enters_of_drawSlide? slides
          exact ih _ _ (kept site next _ enters holds)
        · exact holds

theorem drift_induction
    (kept : ∀ site next board, board.Enters table window.edge mover site next → P site board →
      P next (board.exchange site next))
    (site : Site size) (progress : Progress size σ) (holds : P site progress.board) :
    P (drift table window mover site progress).1
      (drift table window mover site progress).2.board := by
  rw [drift]
  dsimp only
  split
  · rename_i next found
    obtain ⟨side, drawn, entered⟩ := Option.bind_eq_some_iff.mp found
    have sides := drawSide?_cases drawn
    exact kept site next _ (enters_of_entrance? entered (Or.inr sides) (Or.inl rfl)) holds
  · exact holds

theorem Mover.site_of_find? {board : Board size} {site : Site size} {waiting : Mover size}
    (found : Mover.find? table board site = some waiting) : waiting.site = site := by
  unfold Mover.find? at found
  dsimp only at found
  split at found
  · cases found
  · obtain rfl := Option.some.inj found
    rfl

/-- A property of boards holds after the move if it holds before, and if it follows, with or without
the mark on the particle, from what every exchange keeps. -/
theorem move_induction {Q : Board size → Prop} {site : Site size} {progress : Progress size σ}
    (stands : table.properties (progress.board.cell site).element = mover)
    (kept : ∀ site next board, board.Enters table window.edge mover site next → P site board →
      P next (board.exchange site next))
    (begins : (progress.board.cell site).isEmpty = false → mover.direction ≠ 0 →
      P site progress.board)
    (ends : ∀ final board, P final board →
      Q board ∧ Q (board.put final (board.cell final).markMoved))
    (still : Q progress.board) : Q (progress.move table window site).2.board := by
  rw [move]
  dsimp only
  rw [stands]
  split
  · exact still
  · rename_i able
    simp only [Bool.or_eq_true, decide_eq_true_eq, not_or, Bool.not_eq_true] at able
    -- how many steps are drawn does not matter
    generalize mover.drawSteps window.rows.count progress.source = drawn
    have lowered := descend_induction kept drawn.1 site { progress with source := drawn.2 }
      (begins able.1.1 able.2)
    have final := ends _ _ (drift_induction kept _ _ lowered)
    split
    · exact final.1
    · exact final.2

end Progress

/-! ## A turn as a way -/

/-- The cell at a site takes a turn: it is occupied, has not moved yet and has a direction of
travel. -/
structure Board.Able (board : Board size) (table : ElementTable) (site : Site size) : Prop where
  /-- It is occupied. -/
  occupied : (board.cell site).isEmpty = false
  /-- It has not moved yet. -/
  unmoved : (board.cell site).moved = false
  /-- It has a direction of travel. -/
  travels : (table.properties (board.cell site).element).direction ≠ 0

theorem Board.able_iff {board : Board size} {site : Site size} :
    board.Able table site ↔ ¬((board.cell site).isEmpty || (board.cell site).moved ||
      (table.properties (board.cell site).element).direction = 0) = true := by
  simp only [Bool.or_eq_true, decide_eq_true_eq, not_or, Bool.not_eq_true]
  exact ⟨fun able => ⟨⟨able.occupied, able.unmoved⟩, able.travels⟩,
    fun ready => ⟨ready.1.1, ready.1.2, ready.2⟩⟩

theorem Board.Able.exchange {board : Board size} {site : Site size} (able : board.Able table site)
    (next : Site size) : (board.exchange site next).Able table next := by
  have arrived := board.cell_exchange_second site next
  constructor
  · rw [arrived]
    exact able.occupied
  · rw [arrived]
    exact able.unmoved
  · rw [arrived]
    exact able.travels

namespace Progress

variable {site : Site size} {progress : Progress size σ}

/-- The way of a particle in its turn: vertical steps, then perhaps a step aside. -/
def travel (table : ElementTable) (window : Window) (mover : Properties) (steps : Nat)
    (site : Site size) (progress : Progress size σ) : Site size × Progress size σ :=
  let lowered := descend table window mover steps site progress
  drift table window mover lowered.1 lowered.2

theorem tally_descend (table : ElementTable) (window : Window) (mover : Properties) (steps : Nat)
    (site : Site size) (progress : Progress size σ) :
    (descend table window mover steps site progress).2.tally = progress.tally := by
  induction steps generalizing site progress with
  | zero => rfl
  | succ steps induction =>
      rw [descend_add_one]
      split
      · exact induction _ _
      · dsimp only
        split
        · exact induction _ _
        · rfl

theorem tally_travel (table : ElementTable) (window : Window) (mover : Properties) (steps : Nat)
    (site : Site size) (progress : Progress size σ) :
    (travel table window mover steps site progress).2.tally = progress.tally := by
  have lowered := tally_descend table window mover steps site progress
  rw [travel]
  generalize descend table window mover steps site progress = way at lowered ⊢
  rw [← lowered, drift]
  dsimp only
  split <;> rfl

/-- The turn of a cell that takes one, with what it tells. -/
theorem move_eq_of_able (able : progress.board.Able table site) :
    let mover := table.properties (progress.board.cell site).element
    let drawn := mover.drawSteps window.rows.count progress.source
    let way := travel table window mover drawn.1 site { progress with source := drawn.2 }
    progress.move table window site =
      if way.1 = site then (none, way.2)
      else
        (some way.1,
          { way.2 with
            board := way.2.board.put way.1 (way.2.board.cell way.1).markMoved
            tally := way.2.tally.addMoved }) := by
  rw [move]
  dsimp only
  rw [if_neg (Board.able_iff.mp able)]
  rfl

theorem move_eq_none (unable : ¬progress.board.Able table site) :
    progress.move table window site = (none, progress) := by
  rw [move]
  dsimp only
  rw [if_pos (not_not.mp (mt Board.able_iff.mpr unable))]

/-- What is left of the turn of a cell that takes one. -/
theorem move_eq (able : progress.board.Able table site)
    (stands : table.properties (progress.board.cell site).element = mover) :
    (progress.move table window site).2 =
      let drawn := mover.drawSteps window.rows.count progress.source
      let way := travel table window mover drawn.1 site { progress with source := drawn.2 }
      if way.1 = site then way.2
      else
        { way.2 with
          board := way.2.board.put way.1 (way.2.board.cell way.1).markMoved
          tally := way.2.tally.addMoved } := by
  rw [move_eq_of_able able, stands]
  exact apply_ite Prod.snd _ _ _

theorem move_eq_self (unable : ¬progress.board.Able table site) :
    (progress.move table window site).2 = progress :=
  congrArg Prod.snd (move_eq_none unable)

end Progress
end FallingSand
