import FallingSand.Proofs.Mod.Table
import FallingSand.Proofs.Tick.Courses
import FallingSand.Proofs.Tick.Ticks

/-!
# Elements stay known

The rules of a mod lead to elements of its table, and movement only moves elements about.  So where
all cells hold elements of the table, all cells do after any number of ticks.
-/

namespace FallingSand

variable {size : Size} {table : ElementTable} {rules : RuleSet}

namespace Board

/-- Every cell holds an element of the table. -/
def Known (board : Board size) (table : ElementTable) : Prop :=
  ∀ site, table.Knows (board.cell site).element

variable {board next : Board size}

theorem Known.put (known : board.Known table) (site : Site size) {cell : Cell}
    (knows : table.Knows cell.element) : (board.put site cell).Known table := by
  intro other
  rw [cell_put]
  split
  · exact knows
  · exact known other

theorem Known.fill (known : board.Known table) (sites : List (Site size)) {cell : Cell}
    (knows : table.Knows cell.element) : (board.fill sites cell).Known table := by
  intro other
  rw [cell_fill]
  split
  · exact knows
  · exact known other

theorem known_empty (size : Size) (table : ElementTable) : (empty size).Known table := by
  intro site
  rw [empty, cell, Fin.getElem_fin, Vector.getElem_replicate]
  exact table.size_pos

theorem Known.of_origins (known : board.Known table)
    (origins : ∀ site, ∃ origin, (next.cell site).element = (board.cell origin).element) :
    next.Known table := by
  intro site
  obtain ⟨origin, same⟩ := origins site
  exact same ▸ known origin

end Board

theorem Phase.keeps_known (closed : rules.Closed) (phase : Phase) (edge : Edge) :
    phase.Keeps rules edge fun (board : Board size) _ => board.Known rules.elements := by
  cases phase with
  | change =>
      refine change_keeps fun turn known => ?_
      cases turn with
      | idle _ => exact known
      | fires applies _ =>
          obtain ⟨listed, -⟩ := RuleSet.mem_transitionsFor.mp applies
          exact known.put _ (closed.target _ listed)
  | move =>
      intro σ _ reach rows progress known
      exact known.of_origins
        (progress.leads_courseAll rules.elements ⟨edge, reach⟩ rows).exists_origin
  | react =>
      refine react_keeps fun turn known => ?_
      cases turn with
      | idle _ => exact known
      | fires _ _ _ applies _ =>
          obtain ⟨listed, -⟩ := RuleSet.mem_reactionsFor.mp applies
          obtain ⟨left, right⟩ := closed.outcome _ listed
          exact (known.put _ left).put _ right

theorem RuleSet.Closed.keeps_known (closed : rules.Closed) :
    rules.Keeps fun _ board => board.Known rules.elements where
  clear phase board known := known.of_origins fun site => ⟨site, phase.element_clear board site⟩
  run phase edge := phase.keeps_known closed edge

end FallingSand
