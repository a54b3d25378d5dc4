import FallingSand.Grid.Window
import FallingSand.Mod.Rule
import FallingSand.Turn.Progress

/-!
# Reacting with neighbors

In its turn to react, a cell acts on its neighbors in random order until a reaction fires, which
replaces both cells.  A cell that has reacted takes no further part in the phase.
-/

namespace FallingSand
namespace Progress

variable {size : Size} {σ : Type} [RandomSource σ]

/-- Let the element at a site act on the given neighbors in turn; tells whether a reaction fired. -/
def actOn (rules : RuleSet) (site : Site size) (element : ElementId) :
    List (Site size) → Progress size σ → Bool × Progress size σ
  | [], progress => (false, progress)
  | neighbor :: rest, progress =>
      let other := progress.board.cell neighbor
      if other.reacted then actOn rules site element rest progress
      else
        let (outcome, source) := rules.tryReact element other.element progress.source
        match outcome with
        | some (left, right) =>
            let board := progress.board.put site (Cell.ofReacted left)
            (true,
              { board := board.put neighbor (Cell.ofReacted right)
                tally := progress.tally.addReaction
                source })
        | none => actOn rules site element rest { progress with source }

/-- Let the cell at a site react; tells whether it did. -/
def react (rules : RuleSet) (window : Window) (site : Site size) (progress : Progress size σ) :
    Bool × Progress size σ :=
  let cell := progress.board.cell site
  if cell.isEmpty || cell.reacted || !rules.hasReactionsFrom cell.element then (false, progress)
  else
    let (offsets, source) := shuffle orthogonal.toArray progress.source
    actOn rules site cell.element (window.around offsets.toList site.position)
      { progress with source }

/-- Let every cell of some rows react once, in random order. -/
def reactAll (rules : RuleSet) (window : Window) (rows : Rows) (progress : Progress size σ) :
    Progress size σ :=
  let (order, source) := shuffle (size.sites rows).toArray progress.source
  order.foldl (fun progress site => (progress.react rules window site).2) { progress with source }

end Progress
end FallingSand
