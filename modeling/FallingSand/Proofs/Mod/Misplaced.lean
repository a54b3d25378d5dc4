import FallingSand.Proofs.Mod.Faults
import FallingSand.Proofs.Mod.Rules

/-!
# Declarations in bodies

A declaration is misplaced if it has a clause around it, and that is not the same as being inside of
a block.  The header of a block may be empty, and then its body is as good a place as the top.
-/

namespace FallingSand

namespace Statement

/-- A statement stands somewhere in the body of a block, and the clauses are those of the blocks on
the way down to it, the outermost first. -/
inductive Encloses : Statement → List Clause → Statement → Prop where
  /-- It is a statement of the body. -/
  | body {own : List Clause} {body : List Statement} {inner : Statement} (listed : inner ∈ body) :
      Encloses (block own body) own inner
  /-- It is in the body of a statement of the body. -/
  | deeper {own clauses : List Clause} {body : List Statement} {between inner : Statement}
      (listed : between ∈ body) (encloses : Encloses between clauses inner) :
      Encloses (block own body) (own ++ clauses) inner

/-- Each of several statements has a path under which its entries are among theirs. -/
theorem exists_entries_subset {statement : Statement} {statements : List Statement}
    (listed : statement ∈ statements) (parent : List Nat) (clauses : List Clause) (index : Nat) :
    ∃ path, statement.entries path clauses ⊆ entriesFrom parent clauses index statements := by
  induction statements generalizing index with
  | nil => cases listed
  | cons first rest induction =>
      rw [entriesFrom]
      rcases List.mem_cons.mp listed with rfl | later
      · exact ⟨parent ++ [index], List.subset_append_left _ _⟩
      · obtain ⟨path, below⟩ := induction later (index + 1)
        exact ⟨path, List.Subset.trans below (List.subset_append_right _ _)⟩

theorem self_mem_entries (path : List Nat) (clauses : List Clause) (statement : Statement) :
    ⟨path, clauses, statement⟩ ∈ statement.entries path clauses := by
  cases statement <;> exact List.mem_cons_self

/-- A statement in a body has an entry, with the clauses of all blocks on the way down added. -/
theorem Encloses.exists_entry {outer inner : Statement} {clauses : List Clause}
    (encloses : outer.Encloses clauses inner) (path : List Nat) (around : List Clause) :
    ∃ place, ⟨place, around ++ clauses, inner⟩ ∈ outer.entries path around := by
  induction encloses generalizing path around with
  | @body own body inner listed =>
      obtain ⟨place, below⟩ := exists_entries_subset listed path (around ++ own) 0
      exact ⟨place, List.mem_cons_of_mem _ (below (self_mem_entries _ _ _))⟩
  | @deeper own clauses body between inner listed _ induction =>
      obtain ⟨place, below⟩ := exists_entries_subset listed path (around ++ own) 0
      obtain ⟨deeper, found⟩ := induction place (around ++ own)
      rw [List.append_assoc] at found
      exact ⟨deeper, List.mem_cons_of_mem _ (below found)⟩

/-- Without clauses on the way down, the block that encloses a statement has none itself. -/
theorem Encloses.bare {outer inner : Statement} {clauses : List Clause}
    (encloses : outer.Encloses clauses inner) (clauseless : clauses = []) :
    ∃ body, outer = block [] body := by
  cases encloses with
  | @body own body =>
      subst clauseless
      exact ⟨body, rfl⟩
  | @deeper own _ body =>
      obtain ⟨rfl, -⟩ := List.append_eq_nil_iff.mp clauseless
      exact ⟨body, rfl⟩

end Statement

namespace Declarations

/-- In a mod that compiles, blocks with a declaration in them have no clauses, so all declarations
are at the top if no block there is without clauses. -/
theorem no_clauses_around_declarations {declarations : Declarations}
    (compiles : Succeeds declarations.compile) :
    (∀ outer ∈ declarations, ∀ clauses inner, outer.Encloses clauses inner →
      inner.kind? ≠ none → clauses = []) ∧
    ((∀ body, Statement.block [] body ∉ declarations) →
      ∀ outer ∈ declarations, ∀ clauses inner, outer.Encloses clauses inner →
        inner.kind? = none) := by
  have accepted : declarations.Accepted := succeeds_iff.mp compiles
  have bare (outer : Statement) (listed : outer ∈ declarations) (clauses : List Clause)
      (inner : Statement) (encloses : outer.Encloses clauses inner)
      (declares : inner.kind? ≠ none) : clauses = [] := by
    obtain ⟨path, below⟩ := Statement.exists_entries_subset listed [] [] 0
    obtain ⟨place, found⟩ := encloses.exists_entry path []
    refine accepted.top _ (below found) ?_
    cases inner <;> first | rfl | exact absurd rfl declares
  refine ⟨bare, fun headed outer listed clauses inner encloses => ?_⟩
  by_contra declares
  obtain ⟨body, rfl⟩ := encloses.bare (bare outer listed clauses inner encloses declares)
  exact headed body listed

/-- An element is declared in a block without clauses. -/
def sheltered : Declarations :=
  [.block [] [.element "Sand" "#D8E090"]]

theorem compiles_sheltered : Succeeds sheltered.compile :=
  compile_succeeds (by decide) ⟨by decide, by decide, by decide, by decide⟩ (by decide) (by decide)

theorem sheltered_has_no_clauses : Succeeds sheltered.compile ∧
    ∀ outer ∈ sheltered, ∀ clauses inner, outer.Encloses clauses inner →
      inner.kind? ≠ none → clauses = [] :=
  ⟨compiles_sheltered, (no_clauses_around_declarations compiles_sheltered).1⟩

/-- A mod that compiles can have a declaration in a body. -/
theorem sheltered_declares_in_body : ¬∀ declarations : Declarations,
    Succeeds declarations.compile → ∀ outer ∈ declarations, ∀ clauses inner,
      outer.Encloses clauses inner → inner.kind? = none := by
  intro always
  have undeclared := always sheltered compiles_sheltered _ List.mem_cons_self _ _
    (.body List.mem_cons_self)
  cases undeclared

end Declarations
end FallingSand
