import FallingSand.Mod.Rule
import FallingSand.Turn.Progress

/-!
# Changing alone

In its turn to change, an occupied cell may become another element by a transition, whatever its
neighbors are.
-/

namespace FallingSand
namespace Progress

variable {size : Size} {σ : Type} [RandomSource σ]

/-- Let the cell at a site change; tells whether it did.  It becomes a fresh cell. -/
def change (rules : RuleSet) (site : Site size) (progress : Progress size σ) :
    Bool × Progress size σ :=
  let (target, source) := rules.tryTransition (progress.board.cell site).element progress.source
  match target with
  | some target =>
      (true,
        { board := progress.board.put site (Cell.ofElement target)
          tally := progress.tally.addTransition
          source })
  | none => (false, { progress with source })

/-- Let every cell of some rows change once, in random order. -/
def changeAll (rules : RuleSet) (rows : Rows) (progress : Progress size σ) : Progress size σ :=
  let (order, source) := shuffle (size.sites rows).toArray progress.source
  order.foldl (fun progress site => (progress.change rules site).2) { progress with source }

end Progress
end FallingSand
