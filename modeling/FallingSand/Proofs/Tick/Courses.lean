import FallingSand.Proofs.Random.Shuffle
import FallingSand.Proofs.Turn.Course
import FallingSand.Tick.Step

/-!
# The course of a phase of movement

A phase of movement goes through the courses of its turns, and in bands through those of one band
after the other.  So everything that happens in the phase happens in single steps of turns.
-/

namespace FallingSand

variable {size : Size} {σ : Type} [RandomSource σ]

/-! ## Turns one after the other -/

namespace Progress

/-- The particles of some rows in the order of their turns, and the source that is left to them. -/
def order (table : ElementTable) (rows : Rows) (progress : Progress size σ) :
    List (Mover size) × σ :=
  let movers := (size.sites rows).filterMap (Mover.find? table progress.board)
  let (movers, source) := shuffle movers.toArray progress.source
  (movers.toList.mergeSort Mover.goesBefore, source)

theorem moveAll_eq (table : ElementTable) (window : Window) (rows : Rows)
    (progress : Progress size σ) :
    progress.moveAll table window rows =
      (progress.order table rows).1.foldl
        (fun progress mover => (progress.move table window mover.site).2)
        { progress with source := (progress.order table rows).2 } := rfl

/-- Every particle that can move has one turn. -/
theorem order_perm (table : ElementTable) (rows : Rows) (progress : Progress size σ) :
    (progress.order table rows).1.Perm
      ((size.sites rows).filterMap (Mover.find? table progress.board)) :=
  (List.mergeSort_perm _ _).trans (shuffle_perm _ progress.source).toList

/-- Nobody has a turn before those that go before it. -/
theorem order_sorted (table : ElementTable) (rows : Rows) (progress : Progress size σ) :
    (progress.order table rows).1.Pairwise fun first second => first.goesBefore second = true := by
  refine List.pairwise_mergeSort (fun first second third => ?_) (fun first second => ?_) _
  · simp only [Mover.goesBefore, Bool.or_eq_true, Bool.and_eq_true, decide_eq_true_eq, beq_iff_eq]
    omega
  · simp only [Mover.goesBefore, Bool.or_eq_true, Bool.and_eq_true, decide_eq_true_eq, beq_iff_eq]
    omega

/-- The boards in the course of the turns of some particles, one after the other. -/
def courses (table : ElementTable) (window : Window) :
    List (Mover size) → Progress size σ → List (Board size)
  | [], _ => []
  | mover :: rest, progress =>
      progress.course table window mover.site ++
        courses table window rest (progress.move table window mover.site).2

/-- The boards in the course of a phase of movement. -/
def courseAll (table : ElementTable) (window : Window) (rows : Rows) (progress : Progress size σ) :
    List (Board size) :=
  let (order, source) := progress.order table rows
  courses table window order { progress with source }

theorem leads_courses (table : ElementTable) (window : Window) (movers : List (Mover size))
    (progress : Progress size σ) :
    progress.board.Leads table window.edge (courses table window movers progress)
      (movers.foldl (fun progress mover => (progress.move table window mover.site).2)
        progress).board := by
  induction movers generalizing progress with
  | nil => exact .done _
  | cons mover movers induction =>
      exact (leads_course table window mover.site _).append (induction _)

theorem leads_courseAll (table : ElementTable) (window : Window) (rows : Rows)
    (progress : Progress size σ) :
    progress.board.Leads table window.edge (progress.courseAll table window rows)
      (progress.moveAll table window rows).board := by
  rw [moveAll_eq]
  exact leads_courses table window _ { progress with source := (progress.order table rows).2 }

end Progress

/-! ## Phases -/

namespace Phase

variable {rules : RuleSet} {edge : Edge}

/-- The boards in the course of a phase of movement over a whole board. -/
def courseWhole (rules : RuleSet) (edge : Edge) (progress : Progress size σ) :
    List (Board size) :=
  (progress.enter .move).courseAll rules.elements (Window.whole size edge) size.rows

/-- The boards in the course of a phase of movement over some bands, one band after the other. -/
def courseBands (rules : RuleSet) (edge : Edge) (seed tick : UInt64) :
    List (Rows × Nat) → Board size × Tally → List (Board size)
  | [], _ => []
  | (rows, number) :: rest, state =>
      let progress : Progress size Xoshiro :=
        { board := state.1
          tally := state.2
          source := Xoshiro.ofSeed (bandSeed seed tick .move (UInt64.ofNat number)) }
      progress.courseAll rules.elements ⟨edge, rows.widen size.height⟩ rows ++
        courseBands rules edge seed tick rest
          (Phase.move.runBand rules edge seed tick state (rows, number))

/-- The boards in the course of a phase of movement over all bands of a board. -/
def courseBanded (rules : RuleSet) (edge : Edge) (bands : List Rows) (seed tick : UInt64)
    (state : Board size × Tally) : List (Board size) :=
  courseBands rules edge seed tick (pass 0 bands ++ pass 1 bands)
    (Phase.move.clear state.1, state.2)

theorem leads_courseWhole (rules : RuleSet) (edge : Edge) (progress : Progress size σ) :
    (Phase.move.clear progress.board).Leads rules.elements edge (courseWhole rules edge progress)
      (Phase.move.runWhole rules edge progress).board :=
  Progress.leads_courseAll rules.elements (Window.whole size edge) size.rows
    (progress.enter .move)

theorem leads_courseBands (rules : RuleSet) (edge : Edge) (seed tick : UInt64)
    (bands : List (Rows × Nat)) (state : Board size × Tally) :
    state.1.Leads rules.elements edge (courseBands rules edge seed tick bands state)
      (bands.foldl (Phase.move.runBand rules edge seed tick) state).1 := by
  induction bands generalizing state with
  | nil => exact .done _
  | cons band bands induction =>
      have first := Progress.leads_courseAll rules.elements ⟨edge, band.1.widen size.height⟩ band.1
        { board := state.1
          tally := state.2
          source := Xoshiro.ofSeed (bandSeed seed tick .move (UInt64.ofNat band.2)) }
      exact first.append (induction (Phase.move.runBand rules edge seed tick state band))

theorem leads_courseBanded (rules : RuleSet) (edge : Edge) (bands : List Rows) (seed tick : UInt64)
    (state : Board size × Tally) :
    (Phase.move.clear state.1).Leads rules.elements edge
      (courseBanded rules edge bands seed tick state)
      (Phase.move.runBanded rules edge bands seed tick state).1 :=
  leads_courseBands rules edge seed tick _ (Phase.move.clear state.1, state.2)

end Phase
end FallingSand
