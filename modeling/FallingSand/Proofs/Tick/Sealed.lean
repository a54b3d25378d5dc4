import FallingSand.Proofs.FirstPlaces
import FallingSand.Proofs.Tick.Phases
import FallingSand.Proofs.Turn.Motion
import Mathlib.Data.List.Basic

/-!
# Sealed cylinders

An element seals a cell when nothing can happen to it: it is not `Empty`, has no gravity, and no
rule is about it.  When all cells of the first column are sealed, nothing passes through that
column, and so it makes no difference whether the edges at its sides are walls or joined.  A window
over joined edges then finds the sites that one between walls finds, and sealed ones at which
nothing happens and for which nothing is drawn.
-/

namespace FallingSand

/-- What every step of one fold keeps lets another fold take the same steps. -/
theorem foldl_congr_of_kept {α β : Type} {P : β → Prop} {step other : β → α → β} {items : List α}
    (kept : ∀ state item, P state → P (step state item))
    (same : ∀ state item, P state → other state item = step state item) {start : β}
    (holds : P start) : items.foldl other start = items.foldl step start := by
  induction items generalizing start with
  | nil => rfl
  | cons item items induction =>
      rw [List.foldl_cons, List.foldl_cons, same start item holds]
      exact induction (kept start item holds)

/-! ## Sealed cells -/

/-- Nothing can happen to a cell with the element. -/
structure RuleSet.Seals (rules : RuleSet) (element : ElementId) : Prop where
  /-- It is not `Empty`. -/
  occupied : element.isEmpty = false
  /-- It has no gravity. -/
  weightless : (rules.elements.properties element).gravity.isZero = true
  /-- It does not change by itself. -/
  alone : ∀ transition ∈ rules.transitions, transition.element ≠ element
  /-- It neither acts on a neighbor nor is acted on. -/
  apart : ∀ reaction ∈ rules.reactions, reaction.left ≠ element ∧ reaction.right ≠ element

namespace RuleSet.Seals

variable {rules : RuleSet} {element other : ElementId}

theorem not_isMobile (seals : rules.Seals element) :
    (rules.elements.properties element).isMobile = false := by
  rw [Properties.isMobile, seals.weightless]
  rfl

theorem not_canDisplace (seals : rules.Seals element) {cell : Cell}
    (stands : cell.element = element) (mover : Properties) :
    rules.elements.canDisplace mover cell = false := by
  rw [ElementTable.canDisplace, Cell.isEmpty, stands, seals.occupied, seals.not_isMobile]
  simp

theorem not_hasReactionsFrom (seals : rules.Seals element) :
    rules.hasReactionsFrom element = false := by
  rw [Bool.eq_false_iff, ne_eq, RuleSet.hasReactionsFrom_iff]
  rintro ⟨reaction, listed, left⟩
  exact (seals.apart reaction listed).1 left

/-- Nothing is drawn to find out that nothing reacts with it. -/
theorem tryReact (seals : rules.Seals other) {σ : Type} [RandomSource σ] (source : σ) :
    rules.tryReact element other source = (none, source) := by
  have inert : rules.reactionsFor element other = [] := by
    refine List.eq_nil_iff_forall_not_mem.mpr fun reaction applies => ?_
    obtain ⟨listed, -, right⟩ := RuleSet.mem_reactionsFor.mp applies
    exact (seals.apart reaction listed).2 right
  rw [RuleSet.tryReact, inert]
  split <;> rfl

end RuleSet.Seals

variable {size : Size} {rules : RuleSet} {site target : Site size} {board : Board size}

/-- A site outside of the first column. -/
def Site.Beyond (site : Site size) : Prop :=
  site.x.val ≠ 0

instance (site : Site size) : Decidable site.Beyond :=
  inferInstanceAs (Decidable (site.x.val ≠ 0))

/-- A step from there leads no further than over the last column. -/
theorem Site.Beyond.near (beyond : site.Beyond) {offset : Position}
    (across : offset.x = 0 ∨ offset.x = 1 ∨ offset.x = -1) :
    0 ≤ (site.position + offset).x ∧ (site.position + offset).x ≤ size.width := by
  rw [Site.Beyond] at beyond
  have bound := site.x.isLt
  rw [Position.add_x, Site.position]
  dsimp only
  omega

/-- All cells of the first column are sealed. -/
def Board.Sealed (rules : RuleSet) (board : Board size) : Prop :=
  ∀ site : Site size, ¬site.Beyond → rules.Seals (board.cell site).element

namespace Board.Sealed

variable {next : Board size}

/-- What does not write into the first column keeps it sealed. -/
theorem of_beyond (isSealed : board.Sealed rules)
    (same : ∀ site : Site size, ¬site.Beyond →
      (next.cell site).element = (board.cell site).element) : next.Sealed rules := by
  intro site first
  rw [same site first]
  exact isSealed site first

theorem put (isSealed : board.Sealed rules) (beyond : site.Beyond) (cell : Cell) :
    (board.put site cell).Sealed rules := by
  refine isSealed.of_beyond fun other first => ?_
  rw [cell_put_of_ne]
  rintro rfl
  exact first beyond

theorem exchange (isSealed : board.Sealed rules) (first : site.Beyond) (second : target.Beyond) :
    (board.exchange site target).Sealed rules :=
  (isSealed.put first _).put second _

theorem clear (isSealed : board.Sealed rules) (phase : Phase) : (phase.clear board).Sealed rules :=
  isSealed.of_beyond fun site _ => phase.element_clear board site

/-- A cell that can be displaced is outside of the first column. -/
theorem beyond_of_canDisplace (isSealed : board.Sealed rules) {mover : Properties}
    (displaces : rules.elements.canDisplace mover (board.cell site) = true) : site.Beyond := by
  by_contra first
  rw [(isSealed site first).not_canDisplace rfl] at displaces
  cases displaces

theorem beyond_of_direction (isSealed : board.Sealed rules)
    (travels : (rules.elements.properties (board.cell site).element).direction ≠ 0) :
    site.Beyond := by
  by_contra first
  have mobile := Properties.isMobile_of_direction travels
  rw [(isSealed site first).not_isMobile] at mobile
  cases mobile

end Board.Sealed

/-! ## Windows -/

namespace Window

variable {rows : Rows} {position : Position}

/-- Outside of the first column, a step from there finds the same sites over joined edges and
between walls. -/
theorem resolve_wrap_iff (near : 0 ≤ position.x ∧ position.x ≤ size.width)
    (beyond : target.Beyond) :
    (⟨.wrap, rows⟩ : Window).resolve position = some target ↔
      (⟨.wall, rows⟩ : Window).resolve position = some target := by
  rw [resolve_eq_some_iff, resolve_eq_some_iff]
  refine and_congr_right fun _ => and_congr_left fun _ => ?_
  have value := size.wrappedColumn_val position.x
  rw [column?, column?]
  dsimp only
  by_cases last : position.x = size.width
  · -- over joined edges, the first column comes after the last
    rw [last, Int.emod_self] at value
    refine iff_of_false (fun found => ?_) fun found => ?_
    · have column : size.wrappedColumn position.x = target.x := Option.some.inj found
      rw [← last, column] at value
      exact beyond (Int.ofNat.inj value)
    · have column := Size.column?_eq_some found
      have bound := target.x.isLt
      omega
  · rw [Int.emod_eq_of_lt near.1 (by omega)] at value
    have same : size.column? position.x = some (size.wrappedColumn position.x) := by
      rw [Size.column?, dif_pos ⟨near.1, by omega⟩]
      exact congrArg some (Fin.ext (by dsimp only; omega))
    rw [same]

/-- Outside of the first column, the sites around a site there are the same over joined edges and
between walls. -/
theorem around_wrap (beyond : site.Beyond) {offsets : List Position}
    (across : ∀ offset ∈ offsets, offset.x = 0 ∨ offset.x = 1 ∨ offset.x = -1) :
    ((⟨.wrap, rows⟩ : Window).around offsets site.position : List (Site size)).filter
        (Site.Beyond ·) =
      ((⟨.wall, rows⟩ : Window).around offsets site.position).filter (Site.Beyond ·) := by
  have found : (offsets.filterMap fun offset =>
        (⟨.wrap, rows⟩ : Window).resolve (site.position + offset)).filter
          (fun target : Site size => target.Beyond) =
      (offsets.filterMap fun offset =>
        (⟨.wall, rows⟩ : Window).resolve (site.position + offset)).filter (Site.Beyond ·) := by
    rw [List.filter_filterMap, List.filter_filterMap]
    refine List.filterMap_congr fun offset listed => Option.ext fun target => ?_
    simp only [Option.filter_eq_some_iff, decide_eq_true_eq]
    have near := beyond.near (across offset listed)
    exact and_congr_left fun outside => resolve_wrap_iff near outside
  rw [around, around, ← eraseDups_filter, ← eraseDups_filter, List.filter_comm, found,
    List.filter_comm]

end Window

/-! ## Turns -/

namespace Board.Sealed

variable {rows : Rows} {mover : Properties}

/-- Outside of a sealed first column, a particle may enter the same sites over joined edges and
between walls. -/
theorem entrance?_wrap (isSealed : board.Sealed rules) (beyond : site.Beyond) {offset : Position}
    (across : offset.x = 0 ∨ offset.x = 1 ∨ offset.x = -1) :
    board.entrance? rules.elements ⟨.wrap, rows⟩ mover site offset =
      board.entrance? rules.elements ⟨.wall, rows⟩ mover site offset := by
  apply Option.ext
  intro target
  simp only [entrance?, Option.filter_eq_some_iff, Bool.and_eq_true]
  exact and_congr_left fun allowed => Window.resolve_wrap_iff (beyond.near across)
    (isSealed.beyond_of_canDisplace allowed.2)

/-- A step from outside of a sealed first column leads outside of it and leaves it sealed. -/
theorem enters {edge : Edge} {next : Site size} (isSealed : board.Sealed rules)
    (beyond : site.Beyond) (enters : board.Enters rules.elements edge mover site next) :
    next.Beyond ∧ (board.exchange site next).Sealed rules :=
  have outside := isSealed.beyond_of_canDisplace enters.displaces
  ⟨outside, isSealed.exchange beyond outside⟩

end Board.Sealed

namespace Progress

variable {σ : Type} [RandomSource σ] {rows : Rows} {mover : Properties} {progress : Progress size σ}

theorem drawSlide?_wrap (isSealed : progress.board.Sealed rules) (beyond : site.Beyond) :
    progress.drawSlide? rules.elements ⟨.wrap, rows⟩ mover site =
      progress.drawSlide? rules.elements ⟨.wall, rows⟩ mover site := by
  rw [drawSlide?, drawSlide?]
  generalize drawn : drawSide? mover.slide progress.source = draw
  dsimp only
  rcases side : draw.1 with _ | side
  · rfl
  · rw [← drawn] at side
    have unit := drawSide?_cases side
    simp only [Option.bind_some, diagonals, List.findSome?_cons, List.findSome?_nil]
    rw [isSealed.entrance?_wrap beyond (by dsimp only; omega),
      isSealed.entrance?_wrap beyond (by dsimp only; omega)]

theorem descend_wrap (isSealed : progress.board.Sealed rules) (beyond : site.Beyond) (steps : Nat) :
    descend rules.elements ⟨.wrap, rows⟩ mover steps site progress =
      descend rules.elements ⟨.wall, rows⟩ mover steps site progress := by
  induction steps generalizing site progress with
  | zero => rfl
  | succ steps induction =>
      rw [descend_add_one, descend_add_one, isSealed.entrance?_wrap beyond (Or.inl rfl),
        drawSlide?_wrap isSealed beyond]
      split
      · rename_i next found
        have entered := isSealed.enters beyond (enters_of_entrance? found (Or.inl rfl) (Or.inr rfl))
        exact induction entered.2 entered.1
      · dsimp only
        split
        · rename_i next slides
          have entered := isSealed.enters beyond (enters_of_drawSlide? slides)
          exact induction entered.2 entered.1
        · rfl

theorem drift_wrap (isSealed : progress.board.Sealed rules) (beyond : site.Beyond) :
    drift rules.elements ⟨.wrap, rows⟩ mover site progress =
      drift rules.elements ⟨.wall, rows⟩ mover site progress := by
  rw [drift, drift]
  generalize drawn : drawSide? mover.spread progress.source = draw
  dsimp only
  rcases side : draw.1 with _ | side
  · rfl
  · rw [← drawn] at side
    have unit := drawSide?_cases side
    rw [Option.bind_some, Option.bind_some, isSealed.entrance?_wrap beyond (by dsimp only; omega)]

/-- Vertical steps stay outside of a sealed first column and leave it sealed. -/
theorem descend_sealed (isSealed : progress.board.Sealed rules) (beyond : site.Beyond)
    (window : Window) (mover : Properties) (steps : Nat) :
    let way := descend rules.elements window mover steps site progress
    way.1.Beyond ∧ way.2.board.Sealed rules := by
  exact descend_induction (P := fun site board => site.Beyond ∧ board.Sealed rules)
    (fun _ _ _ enters ⟨beyond, isSealed⟩ => isSealed.enters beyond enters) steps site progress
      ⟨beyond, isSealed⟩

theorem move_wrap (isSealed : progress.board.Sealed rules) (site : Site size) :
    progress.move rules.elements ⟨.wrap, rows⟩ site =
      progress.move rules.elements ⟨.wall, rows⟩ site := by
  by_cases able : progress.board.Able rules.elements site
  · have beyond := isSealed.beyond_of_direction able.travels
    rw [move, move]
    dsimp only
    rw [if_neg (Board.able_iff.mp able), if_neg (Board.able_iff.mp able)]
    generalize rules.elements.properties (progress.board.cell site).element = mover
    generalize mover.drawSteps rows.count progress.source = drawn
    let start : Progress size σ := { progress with source := drawn.2 }
    have begins : start.board.Sealed rules := isSealed
    rw [descend_wrap begins beyond]
    obtain ⟨outside, stays⟩ := descend_sealed begins beyond ⟨.wall, rows⟩ mover drawn.1
    rw [drift_wrap stays outside]
  · rw [move, move]
    dsimp only
    have rests := not_not.mp (mt Board.able_iff.mpr able)
    rw [if_pos rests, if_pos rests]

/-- Acting on sealed neighbors does nothing and draws nothing. -/
theorem actOn_filter_beyond (isSealed : progress.board.Sealed rules) (site : Site size)
    (element : ElementId) (neighbors : List (Site size)) :
    actOn rules site element (neighbors.filter (Site.Beyond ·)) progress =
      actOn rules site element neighbors progress := by
  induction neighbors generalizing progress with
  | nil => rfl
  | cons neighbor rest induction =>
      by_cases beyond : neighbor.Beyond
      · rw [List.filter_cons, if_pos (decide_eq_true beyond), actOn, actOn]
        dsimp only
        split
        · exact induction isSealed
        · split
          · rfl
          · exact induction isSealed
      · rw [List.filter_cons, if_neg (by simpa using beyond), actOn]
        dsimp only
        split
        · exact induction isSealed
        · rw [(isSealed neighbor beyond).tryReact]
          exact induction isSealed

theorem react_wrap (isSealed : progress.board.Sealed rules) (site : Site size) :
    progress.react rules ⟨.wrap, rows⟩ site = progress.react rules ⟨.wall, rows⟩ site := by
  by_cases beyond : site.Beyond
  · rw [react, react]
    dsimp only
    split
    · rfl
    · generalize drawn : shuffle orthogonal.toArray progress.source = order
      let start : Progress size σ := { progress with source := order.2 }
      have begins : start.board.Sealed rules := isSealed
      have across : ∀ offset ∈ order.1.toList, offset.x = 0 ∨ offset.x = 1 ∨ offset.x = -1 := by
        intro offset listed
        rw [← drawn] at listed
        have given : offset ∈ orthogonal := by simpa [mem_shuffle] using listed
        simp only [orthogonal, List.mem_cons, List.not_mem_nil, or_false] at given
        rcases given with rfl | rfl | rfl | rfl <;> decide
      rw [← actOn_filter_beyond begins, Window.around_wrap beyond across,
        actOn_filter_beyond begins]
  · rw [react, react, (isSealed site beyond).not_hasReactionsFrom]
    simp only [Bool.not_false, Bool.or_true, if_true]

/-! ### The column stays sealed -/

omit [RandomSource σ] in
theorem Changes.sealed {tally : Tally} {result : Bool × Progress size σ}
    (turn : Changes rules site board tally result) (isSealed : board.Sealed rules) :
    result.2.board.Sealed rules := by
  cases turn with
  | idle _ => exact isSealed
  | fires applies _ =>
      obtain ⟨listed, own⟩ := RuleSet.mem_transitionsFor.mp applies
      refine isSealed.put (fun first => ?_) _
      exact (isSealed site (not_not.mpr first)).alone _ listed own

omit [RandomSource σ] in
theorem Reacts.sealed {edge : Edge} {tally : Tally} {result : Bool × Progress size σ}
    (turn : Reacts rules edge site board tally result) (isSealed : board.Sealed rules) :
    result.2.board.Sealed rules := by
  cases turn with
  | idle _ => exact isSealed
  | @fires neighbor _ _ _ _ applies _ =>
      obtain ⟨listed, left, right⟩ := RuleSet.mem_reactionsFor.mp applies
      have beyond : site.Beyond := fun first =>
        ((isSealed site (not_not.mpr first)).apart _ listed).1 left
      have outside : neighbor.Beyond := fun first =>
        ((isSealed neighbor (not_not.mpr first)).apart _ listed).2 right
      exact (isSealed.put beyond _).put outside _

theorem sealed_move (isSealed : progress.board.Sealed rules) (window : Window) (site : Site size) :
    (progress.move rules.elements window site).2.board.Sealed rules := by
  refine move_induction (P := fun site board => site.Beyond ∧ board.Sealed rules) rfl ?_ ?_ ?_
    isSealed
  · exact fun _ _ _ enters ⟨beyond, isSealed⟩ => isSealed.enters beyond enters
  · exact fun _ travels => ⟨isSealed.beyond_of_direction travels, isSealed⟩
  · exact fun final board ⟨outside, isSealed⟩ => ⟨isSealed, isSealed.put outside _⟩

end Progress
end FallingSand
