import FallingSand.Turn.Change
import FallingSand.Turn.Contact
import FallingSand.Turn.Motion

/-!
# Phases

A tick has three phases: cells change alone, then they move, then they react.  The marks that a
phase leaves on cells are wiped off before the next phase of its kind.
-/

namespace FallingSand

/-- A phase of a tick. -/
inductive Phase where
  /-- Cells change alone. -/
  | change
  /-- Cells move. -/
  | move
  /-- Cells react with neighbors. -/
  | react
  deriving DecidableEq, Repr

namespace Phase

/-- The phases in order. -/
def all : List Phase := [change, move, react]

/-- The place of a phase in a tick. -/
def number : Phase → UInt64
  | change => 0
  | move => 1
  | react => 2

/-- Wipe the mark of the phase off a cell. -/
def clearCell : Phase → Cell → Cell
  | change, cell => cell
  | move, cell => cell.clearMoved
  | react, cell => cell.clearReacted

variable {size : Size}

/-- Wipe the mark of the phase off all cells. -/
def clear (phase : Phase) (board : Board size) : Board size :=
  match phase with
  | change => board
  | _ => { cells := board.cells.map phase.clearCell }

@[simp]
theorem cell_clear (phase : Phase) (board : Board size) (site : Site size) :
    (phase.clear board).cell site = phase.clearCell (board.cell site) := by
  cases phase <;> simp [clear, clearCell, Board.cell]

variable {σ : Type} [RandomSource σ]

/-- Give every cell of some rows its turn, within a window. -/
def run (phase : Phase) (rules : RuleSet) (window : Window) (rows : Rows)
    (progress : Progress size σ) : Progress size σ :=
  match phase with
  | change => progress.changeAll rules rows
  | move => progress.moveAll rules.elements window rows
  | react => progress.reactAll rules window rows

end Phase

namespace Progress

variable {size : Size} {σ : Type}

/-- The state in which a phase begins. -/
def enter (phase : Phase) (progress : Progress size σ) : Progress size σ :=
  { progress with board := phase.clear progress.board }

end Progress
end FallingSand
