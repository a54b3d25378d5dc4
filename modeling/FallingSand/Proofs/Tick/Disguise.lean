import FallingSand.Proofs.Grid.Sites
import FallingSand.Proofs.Random.Shuffle
import FallingSand.Proofs.Turn.Motion
import FallingSand.Tick.Phase

/-!
# Changes that a phase does not notice

A board can be disguised: its cells look different, but within some rows a phase still finds in them
all that it looks for.  What the phase does is then the same.  Stated as one equation: disguising
the board and adding an earlier tally commutes with running the phase.
-/

namespace FallingSand

variable {size : Size}

/-- A fold commutes with a map of states with which every step commutes. -/
theorem foldl_commutes {α β γ : Type} (f : β → γ) {step : β → α → β} {stepAfter : γ → α → γ}
    {items : List α} {start : β}
    (each : ∀ state, ∀ item ∈ items, stepAfter (f state) item = f (step state item)) :
    items.foldl stepAfter (f start) = f (items.foldl step start) := by
  induction items generalizing start with
  | nil => rfl
  | cons item items induction =>
      rw [List.foldl_cons, List.foldl_cons, each start item List.mem_cons_self]
      exact induction fun state later listed =>
        each state later (List.mem_cons_of_mem _ listed)

/-! ## Disguises -/

/-- A change of boards that keeps the elements in some rows and treats the cells there alike. -/
structure Disguise (size : Size) where
  /-- The rows. -/
  reach : Rows
  /-- What it makes of a cell in the rows. -/
  cell : Cell → Cell
  /-- What it makes of a board. -/
  board : Board size → Board size
  /-- Elements are not disguised. -/
  element_cell (content : Cell) : (cell content).element = content.element
  /-- In the rows, the cells of a disguised board are disguised one by one. -/
  cell_board {site : Site size} (inside : reach.contains site.y = true) (original : Board size) :
    (board original).cell site = cell (original.cell site)
  /-- In the rows, cells can be replaced before or after they are disguised. -/
  put_board {site : Site size} (inside : reach.contains site.y = true) (original : Board size)
    (content : Cell) : (board original).put site (cell content) = board (original.put site content)

namespace Disguise

/-- What a phase reads and writes besides elements is not disguised. -/
def Suits (disguise : Disguise size) : Phase → Prop
  | .change => ∀ element, disguise.cell (Cell.ofElement element) = Cell.ofElement element
  | .move => ∀ content, (disguise.cell content).moved = content.moved ∧
      disguise.cell content.markMoved = (disguise.cell content).markMoved
  | .react => (∀ content, (disguise.cell content).reacted = content.reacted) ∧
      ∀ element, disguise.cell (Cell.ofReacted element) = Cell.ofReacted element

variable {disguise : Disguise size} {site other : Site size} {board : Board size}

theorem element_board (inside : disguise.reach.contains site.y = true) (board : Board size) :
    ((disguise.board board).cell site).element = (board.cell site).element := by
  rw [disguise.cell_board inside, disguise.element_cell]

theorem isEmpty_cell (disguise : Disguise size) (content : Cell) :
    (disguise.cell content).isEmpty = content.isEmpty := by
  rw [Cell.isEmpty, disguise.element_cell, Cell.isEmpty]

theorem put_board_of_eq {content : Cell} (inside : disguise.reach.contains site.y = true)
    (kept : disguise.cell content = content) (board : Board size) :
    (disguise.board board).put site content = disguise.board (board.put site content) := by
  rw [← disguise.put_board inside, kept]

theorem exchange_board (first : disguise.reach.contains site.y = true)
    (second : disguise.reach.contains other.y = true) (board : Board size) :
    (disguise.board board).exchange site other = disguise.board (board.exchange site other) := by
  unfold Board.exchange
  rw [disguise.cell_board first, disguise.cell_board second, disguise.put_board first,
    disguise.put_board second]

end Disguise

/-! ## Turns -/

namespace Progress

variable {σ : Type}

/-- The same run after an earlier one, on a disguised board. -/
def disguise (progress : Progress size σ) (disguise : Disguise size) (earlier : Tally) :
    Progress size σ where
  board := disguise.board progress.board
  tally := earlier.merge progress.tally
  source := progress.source

variable {disguise : Disguise size} {earlier : Tally} {site : Site size} {rows : Rows}
  {progress : Progress size σ}

theorem disguise_source : (progress.disguise disguise earlier).source = progress.source := rfl

theorem disguise_renew (source : σ) :
    ({ progress.disguise disguise earlier with source } : Progress size σ) =
      ({ progress with source } : Progress size σ).disguise disguise earlier := rfl

theorem disguise_exchange {other : Site size} (first : disguise.reach.contains site.y = true)
    (second : disguise.reach.contains other.y = true) :
    (progress.disguise disguise earlier).exchange site other =
      (progress.exchange site other).disguise disguise earlier := by
  simp [exchange, Progress.disguise, disguise.exchange_board first second]

variable [RandomSource σ]

/-! ### Changing alone -/

theorem change_disguise (rules : RuleSet) (suits : disguise.Suits .change)
    (inside : disguise.reach.contains site.y = true) :
    ((progress.disguise disguise earlier).change rules site).2 =
      (progress.change rules site).2.disguise disguise earlier := by
  simp only [change, Progress.disguise, disguise.element_board inside]
  split
  · simp [disguise.put_board_of_eq inside (suits _), Tally.addTransition, Tally.merge,
      Nat.add_assoc]
  · rfl

theorem changeAll_disguise (rules : RuleSet) (suits : disguise.Suits .change)
    (within : ∀ y : Fin size.height, rows.contains y = true → disguise.reach.contains y = true) :
    (progress.disguise disguise earlier).changeAll rules rows =
      (progress.changeAll rules rows).disguise disguise earlier := by
  simp only [changeAll, ← Array.foldl_toList, disguise_source, disguise_renew]
  apply foldl_commutes (Progress.disguise · disguise earlier)
  intro state site listed
  have member : site ∈ size.sites rows := by simpa [mem_shuffle] using listed
  exact change_disguise rules suits (within _ (Size.mem_sites.mp member))

/-! ### Moving -/

section Moving

variable {table : ElementTable} {window : Window} {edge : Edge} {mover : Properties}

theorem contains_of_entrance? {board : Board size} {offset : Position} {next : Site size}
    (found : board.entrance? table window mover site offset = some next) :
    window.rows.contains next.y = true :=
  Window.contains_of_resolve (Option.filter_eq_some_iff.mp found).1

theorem contains_of_drawSlide? {next : Site size}
    (slides : (progress.drawSlide? table window mover site).1 = some next) :
    window.rows.contains next.y = true := by
  obtain ⟨side, -, found⟩ := Option.bind_eq_some_iff.mp slides
  obtain ⟨offset, -, entered⟩ := List.exists_of_findSome?_eq_some found
  exact contains_of_entrance? entered

/-- Vertical steps lead to a row of the window. -/
theorem contains_descend (table : ElementTable) (mover : Properties) (steps : Nat)
    (progress : Progress size σ) (inside : window.rows.contains site.y = true) :
    window.rows.contains (descend table window mover steps site progress).1.y = true := by
  induction steps generalizing site progress with
  | zero => exact inside
  | succ steps induction =>
      rw [descend_add_one]
      split
      · exact induction _ (contains_of_entrance? ‹_›)
      · dsimp only
        split
        · exact induction _ (contains_of_drawSlide? ‹_›)
        · exact inside

/-- Drifting leads to a row of the window. -/
theorem contains_drift (table : ElementTable) (mover : Properties) (progress : Progress size σ)
    (inside : window.rows.contains site.y = true) :
    window.rows.contains (drift table window mover site progress).1.y = true := by
  unfold drift
  dsimp only
  split
  · rename_i next found
    obtain ⟨side, -, entered⟩ := Option.bind_eq_some_iff.mp found
    exact contains_of_entrance? entered
  · exact inside

variable (suits : disguise.Suits .move)

include suits

theorem canDisplace_disguise (content : Cell) :
    table.canDisplace mover (disguise.cell content) = table.canDisplace mover content := by
  rw [ElementTable.canDisplace, disguise.isEmpty_cell, (suits content).1, disguise.element_cell,
    ElementTable.canDisplace]

theorem entrance?_disguise {board : Board size} (offset : Position) :
    (disguise.board board).entrance? table ⟨edge, disguise.reach⟩ mover site offset =
      board.entrance? table ⟨edge, disguise.reach⟩ mover site offset := by
  unfold Board.entrance?
  cases found : (Window.resolve ⟨edge, disguise.reach⟩ (site.position + offset) :
      Option (Site size)) with
  | none => rfl
  | some target =>
      have inside : disguise.reach.contains target.y = true := Window.contains_of_resolve found
      simp only [Option.filter_some, disguise.cell_board inside, canDisplace_disguise suits]

theorem drawSlide?_disguise :
    (progress.disguise disguise earlier).drawSlide? table ⟨edge, disguise.reach⟩ mover site =
      progress.drawSlide? table ⟨edge, disguise.reach⟩ mover site := by
  have same : (disguise.board progress.board).entrance? table ⟨edge, disguise.reach⟩ mover site =
      progress.board.entrance? table ⟨edge, disguise.reach⟩ mover site :=
    funext (entrance?_disguise suits)
  simp only [drawSlide?, Progress.disguise, same]

theorem descend_disguise (table : ElementTable) (edge : Edge) (mover : Properties) (steps : Nat)
    (progress : Progress size σ) (earlier : Tally)
    (inside : disguise.reach.contains site.y = true) :
    descend table ⟨edge, disguise.reach⟩ mover steps site (progress.disguise disguise earlier) =
      ((descend table ⟨edge, disguise.reach⟩ mover steps site progress).1,
        (descend table ⟨edge, disguise.reach⟩ mover steps site progress).2.disguise disguise
          earlier) := by
  induction steps generalizing site progress with
  | zero => rfl
  | succ steps induction =>
      have same : (progress.disguise disguise earlier).board.entrance? table
          ⟨edge, disguise.reach⟩ mover site ⟨0, mover.direction⟩ =
          progress.board.entrance? table ⟨edge, disguise.reach⟩ mover site ⟨0, mover.direction⟩ :=
        entrance?_disguise suits _
      rw [descend_add_one, descend_add_one, same, drawSlide?_disguise suits]
      cases entered : progress.board.entrance? table ⟨edge, disguise.reach⟩ mover site
          ⟨0, mover.direction⟩ with
      | some next =>
          have reached := contains_of_entrance? entered
          dsimp only
          rw [disguise_exchange inside reached]
          exact induction _ reached
      | none =>
          dsimp only
          rw [disguise_renew]
          cases slides : (progress.drawSlide? table ⟨edge, disguise.reach⟩ mover site).1 with
          | some next =>
              have reached := contains_of_drawSlide? slides
              dsimp only
              rw [disguise_exchange inside reached]
              exact induction _ reached
          | none => rfl

theorem drift_disguise (table : ElementTable) (edge : Edge) (mover : Properties)
    (progress : Progress size σ) (earlier : Tally)
    (inside : disguise.reach.contains site.y = true) :
    drift table ⟨edge, disguise.reach⟩ mover site (progress.disguise disguise earlier) =
      ((drift table ⟨edge, disguise.reach⟩ mover site progress).1,
        (drift table ⟨edge, disguise.reach⟩ mover site progress).2.disguise disguise earlier) := by
  have same (side : Int) : (progress.disguise disguise earlier).board.entrance? table
      ⟨edge, disguise.reach⟩ mover site ⟨side, 0⟩ =
      progress.board.entrance? table ⟨edge, disguise.reach⟩ mover site ⟨side, 0⟩ :=
    entrance?_disguise suits _
  unfold drift
  simp only [same, disguise_source, disguise_renew]
  cases found : ((drawSide? mover.spread progress.source).1.bind fun side =>
      progress.board.entrance? table ⟨edge, disguise.reach⟩ mover site ⟨side, 0⟩) with
  | some next =>
      obtain ⟨side, -, entered⟩ := Option.bind_eq_some_iff.mp found
      dsimp only
      rw [disguise_exchange inside (contains_of_entrance? entered)]
  | none => rfl

theorem move_disguise (table : ElementTable) (edge : Edge)
    (inside : disguise.reach.contains site.y = true) :
    ((progress.disguise disguise earlier).move table ⟨edge, disguise.reach⟩ site).2 =
      (progress.move table ⟨edge, disguise.reach⟩ site).2.disguise disguise earlier := by
  have cell : (progress.disguise disguise earlier).board.cell site =
      disguise.cell (progress.board.cell site) := disguise.cell_board inside _
  unfold move
  simp only [cell, disguise.isEmpty_cell, (suits _).1, disguise.element_cell, disguise_source,
    disguise_renew]
  split
  · rfl
  · generalize (table.properties (progress.board.cell site).element).drawSteps
      disguise.reach.count progress.source = drawn
    generalize table.properties (progress.board.cell site).element = mover
    have start := descend_disguise suits table edge mover drawn.1
      { progress with source := drawn.2 } earlier inside
    have lower : (Window.mk edge disguise.reach).rows.contains _ = true :=
      contains_descend table mover drawn.1 { progress with source := drawn.2 } inside
    rw [start]
    generalize descend table ⟨edge, disguise.reach⟩ mover drawn.1 site
      { progress with source := drawn.2 } = lowered at lower ⊢
    have final : (Window.mk edge disguise.reach).rows.contains _ = true :=
      contains_drift table mover lowered.2 lower
    dsimp only
    rw [drift_disguise suits table edge mover lowered.2 earlier lower]
    generalize drift table ⟨edge, disguise.reach⟩ mover lowered.1 lowered.2 = arrived at final ⊢
    dsimp only
    split
    · rfl
    · simp only [Progress.disguise, disguise.cell_board final, ← (suits _).2,
        disguise.put_board final, Tally.addMoved, Tally.merge, Nat.add_assoc]

theorem moveAll_disguise (table : ElementTable) (edge : Edge)
    (within : ∀ y : Fin size.height, rows.contains y = true → disguise.reach.contains y = true) :
    (progress.disguise disguise earlier).moveAll table ⟨edge, disguise.reach⟩ rows =
      (progress.moveAll table ⟨edge, disguise.reach⟩ rows).disguise disguise earlier := by
  have inside {site : Site size} (listed : site ∈ size.sites rows) :
      disguise.reach.contains site.y = true := within _ (Size.mem_sites.mp listed)
  have movers : (size.sites rows).filterMap
      (Mover.find? table (progress.disguise disguise earlier).board) =
        (size.sites rows).filterMap (Mover.find? table progress.board) := by
    apply List.filterMap_congr
    intro site listed
    have element : ((progress.disguise disguise earlier).board.cell site).element =
        (progress.board.cell site).element := disguise.element_board (inside listed) _
    unfold Mover.find?
    rw [element]
  simp only [moveAll, movers, disguise_source, disguise_renew]
  apply foldl_commutes (Progress.disguise · disguise earlier)
  intro state mover listed
  have found : mover ∈ (size.sites rows).filterMap (Mover.find? table progress.board) := by
    simpa [mem_shuffle] using listed
  obtain ⟨site, standing, same⟩ := List.mem_filterMap.mp found
  exact move_disguise suits table edge (Mover.site_of_find? same ▸ inside standing)

end Moving

/-! ### Reacting -/

section Reacting

variable (suits : disguise.Suits .react)

include suits

theorem actOn_disguise (rules : RuleSet) {element : ElementId} {neighbors : List (Site size)}
    (inside : disguise.reach.contains site.y = true)
    (near : ∀ neighbor ∈ neighbors, disguise.reach.contains neighbor.y = true) :
    (actOn rules site element neighbors (progress.disguise disguise earlier)).2 =
      (actOn rules site element neighbors progress).2.disguise disguise earlier := by
  induction neighbors generalizing progress with
  | nil => rfl
  | cons neighbor rest induction =>
      obtain ⟨next, later⟩ := List.forall_mem_cons.mp near
      have cell : (progress.disguise disguise earlier).board.cell neighbor =
          disguise.cell (progress.board.cell neighbor) := disguise.cell_board next _
      unfold actOn
      simp only [cell, suits.1, disguise.element_cell, disguise_source, disguise_renew]
      split
      · exact induction later
      · split
        · simp [Progress.disguise, disguise.put_board_of_eq inside (suits.2 _),
            disguise.put_board_of_eq next (suits.2 _), Tally.addReaction, Tally.merge,
            Nat.add_assoc]
        · exact induction later

theorem react_disguise (rules : RuleSet) (edge : Edge)
    (inside : disguise.reach.contains site.y = true) :
    ((progress.disguise disguise earlier).react rules ⟨edge, disguise.reach⟩ site).2 =
      (progress.react rules ⟨edge, disguise.reach⟩ site).2.disguise disguise earlier := by
  have cell : (progress.disguise disguise earlier).board.cell site =
      disguise.cell (progress.board.cell site) := disguise.cell_board inside _
  unfold react
  simp only [cell, disguise.isEmpty_cell, suits.1, disguise.element_cell, disguise_source,
    disguise_renew]
  split
  · rfl
  · apply actOn_disguise suits rules inside
    intro neighbor listed
    rw [Window.around, List.mem_eraseDups, List.mem_filter, List.mem_filterMap] at listed
    obtain ⟨⟨offset, -, found⟩, -⟩ := listed
    exact Window.contains_of_resolve found

theorem reactAll_disguise (rules : RuleSet) (edge : Edge)
    (within : ∀ y : Fin size.height, rows.contains y = true → disguise.reach.contains y = true) :
    (progress.disguise disguise earlier).reactAll rules ⟨edge, disguise.reach⟩ rows =
      (progress.reactAll rules ⟨edge, disguise.reach⟩ rows).disguise disguise earlier := by
  simp only [reactAll, ← Array.foldl_toList, disguise_source, disguise_renew]
  apply foldl_commutes (Progress.disguise · disguise earlier)
  intro state site listed
  have member : site ∈ size.sites rows := by simpa [mem_shuffle] using listed
  exact react_disguise suits rules edge (within _ (Size.mem_sites.mp member))

end Reacting

end Progress

/-- A phase does the same on a disguised board if the disguise suits it, and leaves the disguise as
it is. -/
theorem Phase.run_disguise {σ : Type} [RandomSource σ] {phase : Phase} {disguise : Disguise size}
    (suits : disguise.Suits phase) (rules : RuleSet) (edge : Edge) {rows : Rows}
    (within : ∀ y : Fin size.height, rows.contains y = true → disguise.reach.contains y = true)
    (progress : Progress size σ) (earlier : Tally) :
    phase.run rules ⟨edge, disguise.reach⟩ rows (progress.disguise disguise earlier) =
      (phase.run rules ⟨edge, disguise.reach⟩ rows progress).disguise disguise earlier := by
  cases phase with
  | change => exact Progress.changeAll_disguise rules suits within
  | move => exact Progress.moveAll_disguise suits rules.elements edge within
  | react => exact Progress.reactAll_disguise suits rules edge within

end FallingSand
