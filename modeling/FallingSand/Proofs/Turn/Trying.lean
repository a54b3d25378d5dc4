import FallingSand.Proofs.Grid.Neighborhood
import FallingSand.Proofs.Tick.Weights
import FallingSand.Random.Script

/-!
# Who is tried in a turn to react

The directions of a turn to react come in random order, and over joined edges two of them may lead
to the same neighbor.  What is found that way is a list of all neighbors, each of them once.  Those
that have not reacted are tried in the order of that list until a reaction fires, which rewrites the
cell whose turn it is and that neighbor, and nothing else.
-/

namespace FallingSand

variable {size : Size} {σ : Type} [RandomSource σ] {rules : RuleSet} {window : Window}
  {site : Site size}

namespace Window

/-- Whatever order the directions come in, the same neighbors are found. -/
theorem mem_around_shuffle (source : σ) {other : Site size} :
    other ∈ window.around (shuffle orthogonal.toArray source).1.toList site.position ↔
      other ∈ window.neighbors site.position := by
  rw [neighbors, mem_around, mem_around]
  simp only [Array.mem_toList_iff, mem_shuffle, List.mem_toArray]

end Window

namespace Progress

/-! ## Tries -/

/-- A try that has succeeded. -/
structure Success (size : Size) where
  /-- The neighbor that was tried. -/
  neighbor : Site size
  /-- What the acting element becomes. -/
  left : ElementId
  /-- What the neighbor becomes. -/
  right : ElementId

/-- An element tries to react with the cells at some sites, one after the other, from one source of
randomness to another.  The last try succeeds, or none does. -/
inductive Tries (rules : RuleSet) (board : Board size) (element : ElementId) :
    σ → List (Site size) → Option (Success size) → σ → Prop where
  /-- There is nobody to try. -/
  | done (source : σ) : Tries rules board element source [] none source
  /-- A reaction fires, and nobody else is tried. -/
  | fires {source later : σ} {neighbor : Site size} {left right : ElementId}
      (fired : rules.tryReact element (board.cell neighbor).element source =
        (some (left, right), later)) :
      Tries rules board element source [neighbor] (some ⟨neighbor, left, right⟩) later
  /-- No reaction fires, and the others are tried. -/
  | passes {source between later : σ} {neighbor : Site size} {others : List (Site size)}
      {success : Option (Success size)}
      (passed : rules.tryReact element (board.cell neighbor).element source = (none, between))
      (rest : Tries rules board element between others success later) :
      Tries rules board element source (neighbor :: others) success later

/-- The end of a turn, told by the try that succeeded: both cells are rewritten, and the reaction is
counted.  Without success nothing has happened. -/
def conclude (site : Site size) (progress : Progress size σ) (source : σ) :
    Option (Success size) → Bool × Progress size σ
  | some success =>
      (true,
        { board := (progress.board.put site (Cell.ofReacted success.left)).put success.neighbor
            (Cell.ofReacted success.right)
          tally := progress.tally.addReaction
          source })
  | none => (false, { progress with source })

/-- Of the given neighbors those that have not reacted are tried in turn, up to the first
success. -/
theorem actOn_tries (rules : RuleSet) (site : Site size) (element : ElementId)
    (neighbors : List (Site size)) (progress : Progress size σ) :
    let order := neighbors.filter fun other => !(progress.board.cell other).reacted
    ∃ tried success later, tried <+: order ∧ (success = none → tried = order) ∧
      Tries rules progress.board element progress.source tried success later ∧
      actOn rules site element neighbors progress = progress.conclude site later success := by
  obtain ⟨board, tally, source⟩ := progress
  induction neighbors generalizing source with
  | nil => exact ⟨[], none, source, List.prefix_rfl, fun _ => rfl, .done source, rfl⟩
  | cons neighbor rest induction =>
      rw [actOn]
      dsimp only at induction ⊢
      split
      · rename_i reacted
        rw [List.filter_cons_of_neg (by simp [reacted])]
        exact induction source
      · rename_i fresh
        rw [List.filter_cons_of_pos (by simpa using fresh)]
        generalize attempt : rules.tryReact element (board.cell neighbor).element source = result
        obtain ⟨outcome, between⟩ := result
        cases outcome with
        | some outcome =>
            exact ⟨[neighbor], some ⟨neighbor, outcome.1, outcome.2⟩, between,
              List.prefix_append [neighbor] _, fun failed => absurd failed (Option.some_ne_none _),
              .fires attempt, rfl⟩
        | none =>
            obtain ⟨tried, success, later, first, all, tries, same⟩ := induction between
            refine ⟨neighbor :: tried, success, later, ?_, fun failed => ?_, .passes attempt tries,
              same⟩
            · exact (List.prefix_cons_inj neighbor).mpr first
            · rw [all failed]

/-! ## Whole turns -/

/-- What a turn has done to the board and the tally, told by the try that succeeded. -/
def Rewrites (before after : Progress size σ) (site : Site size) : Option (Success size) → Prop
  | some success =>
      success.neighbor ≠ site ∧
        after.board.cell site = Cell.ofReacted success.left ∧
        after.board.cell success.neighbor = Cell.ofReacted success.right ∧
        (∀ other, other ≠ site → other ≠ success.neighbor →
          after.board.cell other = before.board.cell other) ∧
        after.tally = before.tally.addReaction
  | none => after.board = before.board ∧ after.tally = before.tally

omit [RandomSource σ] in
theorem rewrites_conclude (progress : Progress size σ) (source : σ)
    {success : Option (Success size)} (apart : ∀ made ∈ success, made.neighbor ≠ site) :
    progress.Rewrites (progress.conclude site source success).2 site success := by
  cases success with
  | none => exact ⟨rfl, rfl⟩
  | some made =>
      have different := apart made rfl
      refine ⟨different, ?_, Board.cell_put_self _ _ _, fun other first second => ?_, rfl⟩
      · rw [conclude, Board.cell_put_of_ne _ _ different.symm, Board.cell_put_self]
      · rw [conclude, Board.cell_put_of_ne _ _ second, Board.cell_put_of_ne _ _ first]

theorem Tries.mem_of_success {board : Board size} {element : ElementId} {source later : σ}
    {tried : List (Site size)} {success : Option (Success size)}
    (tries : Tries rules board element source tried success later) {made : Success size}
    (succeeded : made ∈ success) : made.neighbor ∈ tried := by
  induction tries with
  | done _ => cases succeeded
  | fires _ =>
      obtain rfl := Option.mem_some_iff.mp succeeded
      exact List.mem_singleton_self _
  | passes _ _ induction => exact List.mem_cons_of_mem _ (induction succeeded)

/-- A turn to react goes through a list of neighbors up to the first success. -/
structure GoesThrough (rules : RuleSet) (window : Window) (site : Site size)
    (before : Progress size σ) (turn : Bool × Progress size σ) (order tried : List (Site size))
    (success : Option (Success size)) : Prop where
  /-- The list has no site twice. -/
  distinct : order.Nodup
  /-- It lists the neighbors that have not reacted, and nobody else. -/
  everyone : ∀ other, other ∈ order ↔
    other ∈ window.neighbors site.position ∧ (before.board.cell other).reacted = false
  /-- The neighbors are the adjacent sites in the window. -/
  adjacent : ∀ other, other ∈ window.neighbors site.position ↔
    Adjacent window.edge site other ∧ window.rows.contains other.y = true
  /-- Those that are tried come first in the list. -/
  first : tried <+: order
  /-- Without success, all of them are tried. -/
  all : success = none → tried = order
  /-- They are tried one after the other, once the directions have been shuffled. -/
  tries : Tries rules before.board (before.board.cell site).element
    (shuffle orthogonal.toArray before.source).2 tried success turn.2.source
  /-- The turn tells whether a try has succeeded. -/
  tells : turn.1 = success.isSome
  /-- The site and the neighbor of that try are rewritten. -/
  rewrites : before.Rewrites turn.2 site success

/-- In its turn, an occupied cell that has not reacted and whose element has a reaction tries every
neighbor that has not reacted, in some order and each of them once, until a reaction fires.  That
reaction rewrites the two cells and is counted, and without it board and tally are as before. -/
theorem react_tries (rules : RuleSet) (window : Window) (progress : Progress size σ)
    (occupied : (progress.board.cell site).isEmpty = false)
    (fresh : (progress.board.cell site).reacted = false)
    (reactive : rules.hasReactionsFrom (progress.board.cell site).element = true) :
    ∃ order tried success,
      GoesThrough rules window site progress (progress.react rules window site) order tried
        success := by
  let drawn := shuffle orthogonal.toArray progress.source
  let found : List (Site size) := window.around drawn.1.toList site.position
  let order := found.filter fun other => !(progress.board.cell other).reacted
  let element := (progress.board.cell site).element
  have acts : progress.react rules window site =
      actOn rules site element found { progress with source := drawn.2 } := by
    simp only [react, occupied, fresh, reactive, Bool.not_true, Bool.or_self, Bool.false_eq_true,
      if_false]
    rfl
  obtain ⟨tried, success, later, first, all, tries, same⟩ :=
    actOn_tries rules site element found { progress with source := drawn.2 }
  have everyone (other : Site size) : other ∈ order ↔
      other ∈ window.neighbors site.position ∧ (progress.board.cell other).reacted = false := by
    rw [List.mem_filter, Window.mem_around_shuffle, Bool.not_eq_true']
  have apart : ∀ made ∈ success, made.neighbor ≠ site := fun made succeeded => by
    have listed := (everyone _).mp (first.subset (tries.mem_of_success succeeded))
    exact (Window.mem_neighbors.mp listed.1).1.1.symm
  rw [acts, same]
  refine ⟨order, tried, success, ?_⟩
  constructor
  · exact (nodup_eraseDups _).filter _
  · exact everyone
  · exact fun other => Window.mem_neighbors
  · exact first
  · exact all
  · cases success <;> exact tries
  · cases success <;> rfl
  · exact rewrites_conclude { progress with source := drawn.2 } later apart

/-- Water beside salt, on two columns whose edges are joined, so that each cell lies on both sides
of the other. -/
def brackish : Board ⟨2, 1, Nat.two_pos, Nat.one_pos, by decide⟩ :=
  ((Board.empty _).put ⟨⟨0, Nat.two_pos⟩, ⟨0, Nat.one_pos⟩⟩ (Cell.ofElement ⟨2⟩)).put
    ⟨⟨1, Nat.one_lt_two⟩, ⟨0, Nat.one_pos⟩⟩ (Cell.ofElement ⟨3⟩)

theorem brackish_tries :
    let water : Site ⟨2, 1, Nat.two_pos, Nat.one_pos, by decide⟩ :=
      ⟨⟨0, Nat.two_pos⟩, ⟨0, Nat.one_pos⟩⟩
    let before := start brackish (Script.ofDraws #[Single.zero])
    let turn := before.react thawing ⟨.wrap, ⟨0, 1⟩⟩ water
    (brackish.cell water).isEmpty = false ∧ (brackish.cell water).reacted = false ∧
      thawing.hasReactionsFrom (brackish.cell water).element = true ∧
      ∃ order tried success,
        GoesThrough thawing ⟨.wrap, ⟨0, 1⟩⟩ water before turn order tried success := by
  intro water before turn
  have occupied : (brackish.cell water).isEmpty = false := by decide
  have fresh : (brackish.cell water).reacted = false := by decide
  have reactive : thawing.hasReactionsFrom (brackish.cell water).element = true :=
    (thawing.hasReactionsFrom_iff _).mpr ⟨_, List.mem_singleton_self _, by decide⟩
  exact ⟨occupied, fresh, reactive,
    react_tries thawing ⟨.wrap, ⟨0, 1⟩⟩ before occupied fresh reactive⟩

end Progress
end FallingSand
