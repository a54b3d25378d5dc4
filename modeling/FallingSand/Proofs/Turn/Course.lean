import FallingSand.Proofs.Turn.Motion

/-!
# The course of a turn

A turn to move writes to the board step by step: the particle changes places with a cell, again and
again, and is marked where it ends up.  The course of a turn lists the boards after each of these
steps.  What single steps keep or relate is carried along a whole course.
-/

namespace FallingSand

variable {size : Size}

/-! ## Single steps -/

namespace Board

/-- What one step of a turn to move makes of a board. -/
inductive Writes (table : ElementTable) (edge : Edge) : Board size → Board size → Prop where
  /-- Nothing is written. -/
  | rest (board : Board size) : Writes table edge board board
  /-- A particle changes places with a cell that it may enter. -/
  | exchange {board : Board size} {site next : Site size} (able : board.Able table site)
      (enters : board.Enters table edge (table.properties (board.cell site).element) site next) :
      Writes table edge board (board.exchange site next)
  /-- A particle is marked. -/
  | mark {board : Board size} {site : Site size} (able : board.Able table site) :
      Writes table edge board (board.put site (board.cell site).markMoved)

/-- A step only moves elements about. -/
theorem Writes.exists_origin {table : ElementTable} {edge : Edge} {board next : Board size}
    (writes : board.Writes table edge next) (site : Site size) :
    ∃ origin, (next.cell site).element = (board.cell origin).element := by
  cases writes with
  | rest => exact ⟨site, rfl⟩
  | @exchange first second _ _ =>
      obtain ⟨origin, same⟩ := board.exists_origin_exchange first second site
      exact ⟨origin, congrArg Cell.element same⟩
  | @mark marked _ => exact board.exists_origin_markMoved marked site

/-- From one board to another through the listed ones, one step at a time. -/
inductive Leads (table : ElementTable) (edge : Edge) :
    Board size → List (Board size) → Board size → Prop where
  /-- There is no step. -/
  | done (board : Board size) : Leads table edge board [] board
  /-- A step comes first. -/
  | step {before next after : Board size} {course : List (Board size)}
      (first : before.Writes table edge next) (rest : Leads table edge next course after) :
      Leads table edge before (next :: course) after

variable {table : ElementTable} {edge : Edge} {before between after : Board size}
  {course others : List (Board size)}

namespace Leads

theorem append (first : Leads table edge before course between)
    (second : Leads table edge between others after) :
    Leads table edge before (course ++ others) after := by
  induction first with
  | done _ => exact second
  | step writes _ induction => exact .step writes (induction second)

theorem of_writes (writes : before.Writes table edge after) :
    Leads table edge before [after] after :=
  .step writes (.done after)

/-- A course ends where it leads. -/
theorem getLast? (leads : Leads table edge before course after) :
    (before :: course).getLast? = some after := by
  induction leads with
  | done _ => rfl
  | step _ _ induction => rw [List.getLast?_cons_cons, induction]

theorem mem_last (leads : Leads table edge before course after) : after ∈ before :: course :=
  List.mem_of_getLast? leads.getLast?

/-- On the way, elements are only moved about. -/
theorem exists_origin (leads : Leads table edge before course after) (site : Site size) :
    ∃ origin, (after.cell site).element = (before.cell origin).element := by
  induction leads with
  | done _ => exact ⟨site, rfl⟩
  | step writes _ induction =>
      obtain ⟨between, later⟩ := induction
      obtain ⟨origin, earlier⟩ := writes.exists_origin between
      exact ⟨origin, later.trans earlier⟩

/-- What every step keeps holds all the way, and what a step brings about between two boards holds
between any two boards on the way if it can be composed. -/
theorem pairwise {P : Board size → Prop} {R : Board size → Board size → Prop}
    (step : ∀ {board next : Board size}, board.Writes table edge next → P board →
      P next ∧ R board next)
    (trans : ∀ {first second third : Board size}, R first second → R second third → R first third)
    (leads : Leads table edge before course after) (holds : P before) :
    (∀ board ∈ before :: course, P board) ∧ (before :: course).Pairwise R := by
  induction leads with
  | done board => exact ⟨List.forall_mem_singleton.mpr holds, List.pairwise_singleton R board⟩
  | step writes _ induction =>
      obtain ⟨kept, related⟩ := step writes holds
      obtain ⟨all, ordered⟩ := induction kept
      refine ⟨List.forall_mem_cons.mpr ⟨holds, all⟩, List.Pairwise.cons ?_ ordered⟩
      refine List.forall_mem_cons.mpr ⟨related, fun later listed => ?_⟩
      exact trans related (List.rel_of_pairwise_cons ordered listed)

end Leads

/-- Steps one after the other form a course. -/
theorem leads_range (boards : Nat → Board size)
    (writes : ∀ taken, (boards taken).Writes table edge (boards (taken + 1))) (steps : Nat) :
    Leads table edge (boards 0) ((List.range steps).map fun taken => boards (taken + 1))
      (boards steps) := by
  induction steps with
  | zero => exact .done _
  | succ steps induction =>
      rw [List.range_succ, List.map_append]
      exact induction.append (.of_writes (writes steps))

end Board

/-! ## Turns -/

namespace Progress

variable {σ : Type} [RandomSource σ] {table : ElementTable} {window : Window} {mover : Properties}
  {site : Site size} {progress : Progress size σ}

/-- With one vertical step more, a particle comes at most one exchange further. -/
theorem descend_succ (table : ElementTable) (window : Window) (mover : Properties) (steps : Nat)
    (site : Site size) (progress : Progress size σ) :
    let way := descend table window mover steps site progress
    let further := descend table window mover (steps + 1) site progress
    further.1 = way.1 ∧ further.2.board = way.2.board ∨
      way.2.board.Enters table window.edge mover way.1 further.1 ∧
        further.2.board = way.2.board.exchange way.1 further.1 := by
  induction steps generalizing site progress with
  | zero =>
      dsimp only
      rw [descend_add_one]
      split
      · rename_i next found
        exact Or.inr ⟨enters_of_entrance? found (Or.inl rfl) (Or.inr rfl), rfl⟩
      · dsimp only
        split
        · rename_i next slides
          exact Or.inr ⟨enters_of_drawSlide? slides, rfl⟩
        · exact Or.inl ⟨rfl, rfl⟩
  | succ steps induction =>
      dsimp only
      rw [descend_add_one, descend_add_one]
      split
      · exact induction _ _
      · dsimp only
        split
        · exact induction _ _
        · exact Or.inl ⟨rfl, rfl⟩

theorem drift_cases (table : ElementTable) (window : Window) (mover : Properties)
    (site : Site size) (progress : Progress size σ) :
    let way := drift table window mover site progress
    way.1 = site ∧ way.2.board = progress.board ∨
      progress.board.Enters table window.edge mover site way.1 ∧
        way.2.board = progress.board.exchange site way.1 := by
  rw [drift]
  dsimp only
  split
  · rename_i next found
    obtain ⟨side, drawn, entered⟩ := Option.bind_eq_some_iff.mp found
    have sides := drawSide?_cases drawn
    exact Or.inr ⟨enters_of_entrance? entered (Or.inr sides) (Or.inl rfl), rfl⟩
  · exact Or.inl ⟨rfl, rfl⟩

/-- The boards in the course of the turn of a cell, if it takes one: after each of its vertical
steps, after it has drifted, and at the end of the turn. -/
def course (table : ElementTable) (window : Window) (site : Site size)
    (progress : Progress size σ) : List (Board size) :=
  let cell := progress.board.cell site
  let mover := table.properties cell.element
  if cell.isEmpty || cell.moved || mover.direction = 0 then []
  else
    let (steps, source) := mover.drawSteps window.rows.count progress.source
    let start := { progress with source }
    ((List.range steps).map fun taken =>
        (descend table window mover (taken + 1) site start).2.board) ++
      [(travel table window mover steps site start).2.board,
        (progress.move table window site).2.board]

/-- A particle with some properties is on its way. -/
structure OnWay (table : ElementTable) (mover : Properties) (site : Site size)
    (board : Board size) : Prop where
  /-- It is at the site and has not ended its turn. -/
  able : board.Able table site
  /-- It has the properties. -/
  stands : table.properties (board.cell site).element = mover

omit [RandomSource σ] in
theorem OnWay.exchange {board : Board size} (onWay : OnWay table mover site board)
    (next : Site size) : OnWay table mover next (board.exchange site next) := by
  refine ⟨onWay.able.exchange next, ?_⟩
  rw [Board.cell_exchange_second]
  exact onWay.stands

/-- A particle comes from one board to another by at most one exchange. -/
theorem OnWay.writes {edge : Edge} {next : Site size} {board after : Board size}
    (onWay : OnWay table mover site board)
    (comes : next = site ∧ after = board ∨
      board.Enters table edge mover site next ∧ after = board.exchange site next) :
    board.Writes table edge after := by
  rcases comes with ⟨-, rfl⟩ | ⟨enters, rfl⟩
  · exact .rest _
  · exact .exchange onWay.able (onWay.stands.symm ▸ enters)

theorem OnWay.descend (onWay : OnWay table mover site progress.board) (window : Window)
    (steps : Nat) :
    OnWay table mover (descend table window mover steps site progress).1
      (descend table window mover steps site progress).2.board :=
  descend_induction (fun _ next _ _ onWay => onWay.exchange next) steps site progress onWay

theorem OnWay.travel (onWay : OnWay table mover site progress.board) (window : Window)
    (steps : Nat) :
    OnWay table mover (travel table window mover steps site progress).1
      (travel table window mover steps site progress).2.board :=
  drift_induction (fun _ next _ _ onWay => onWay.exchange next) _ _ (onWay.descend window steps)

/-- A turn leads through its course. -/
theorem leads_course (table : ElementTable) (window : Window) (site : Site size)
    (progress : Progress size σ) :
    progress.board.Leads table window.edge (progress.course table window site)
      (progress.move table window site).2.board := by
  by_cases able : progress.board.Able table site
  · rw [course]
    dsimp only
    rw [if_neg (Board.able_iff.mp able), move_eq able rfl]
    generalize stands : table.properties (progress.board.cell site).element = mover
    generalize mover.drawSteps window.rows.count progress.source = drawn
    let start : Progress size σ := { progress with source := drawn.2 }
    have begins : OnWay table mover site start.board := ⟨able, stands⟩
    have lowered := Board.leads_range
      (fun taken => (Progress.descend table window mover taken site start).2.board)
      (fun taken => (begins.descend window taken).writes
        (descend_succ table window mover taken site start)) drawn.1
    have drifted := (begins.descend window drawn.1).writes (drift_cases table window mover _ _)
    have arrived := begins.travel window drawn.1
    refine lowered.append (.step drifted (.of_writes ?_))
    dsimp only
    split
    · exact .rest _
    · exact .mark arrived.able
  · rw [move_eq_self able, course]
    dsimp only
    rw [if_pos (not_not.mp (mt Board.able_iff.mpr able))]
    exact .done _

end Progress
end FallingSand
