import FallingSand.Grid.Board
import FallingSand.Random.Source

/-!
# Progress of a tick

During a tick, cells take turns.  What a turn reads and changes is the board, a tally of what has
happened, and the source of randomness.
-/

namespace FallingSand

/-- How often something happened. -/
structure Tally where
  /-- Number of cells moved. -/
  moved : Nat
  /-- Number of transitions that fired. -/
  transitions : Nat
  /-- Number of reactions that fired. -/
  reactions : Nat
  deriving DecidableEq, Repr

namespace Tally

/-- Nothing has happened. -/
def zero : Tally where
  moved := 0
  transitions := 0
  reactions := 0

/-- Both tallies together. -/
def merge (first second : Tally) : Tally where
  moved := first.moved + second.moved
  transitions := first.transitions + second.transitions
  reactions := first.reactions + second.reactions

/-- One more cell moved. -/
def addMoved (tally : Tally) : Tally :=
  { tally with moved := tally.moved + 1 }

/-- One more transition fired. -/
def addTransition (tally : Tally) : Tally :=
  { tally with transitions := tally.transitions + 1 }

/-- One more reaction fired. -/
def addReaction (tally : Tally) : Tally :=
  { tally with reactions := tally.reactions + 1 }

/-- Whether nothing has happened. -/
def isQuiet (tally : Tally) : Bool :=
  tally == zero

@[simp]
theorem isQuiet_iff (tally : Tally) : tally.isQuiet = true ↔ tally = zero := by
  simp [isQuiet]

@[simp]
theorem merge_zero (tally : Tally) : tally.merge zero = tally := rfl

@[simp]
theorem zero_merge (tally : Tally) : zero.merge tally = tally := by
  simp [merge, zero]

theorem merge_comm (first second : Tally) : first.merge second = second.merge first := by
  simp [merge, Nat.add_comm]

theorem merge_assoc (first second third : Tally) :
    (first.merge second).merge third = first.merge (second.merge third) := by
  simp [merge, Nat.add_assoc]

end Tally

/-- The state of a tick under way. -/
structure Progress (size : Size) (σ : Type) where
  /-- The cells. -/
  board : Board size
  /-- What has happened. -/
  tally : Tally
  /-- The source of randomness. -/
  source : σ

namespace Progress

variable {size : Size} {σ : Type}

/-- The state before anything has happened. -/
def start (board : Board size) (source : σ) : Progress size σ where
  board
  tally := Tally.zero
  source

/-- Exchange the cells at two sites. -/
def exchange (progress : Progress size σ) (first second : Site size) : Progress size σ :=
  { progress with board := progress.board.exchange first second }

end Progress
end FallingSand
