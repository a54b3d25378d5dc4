import FallingSand.Mod.Statement

/-!
# Where paths lead

The first index of a path picks a statement at the top, and each further one a statement in the body
of the block that has been reached.  The path of an entry leads to its statement, through exactly
the blocks whose clauses are around it.
-/

namespace FallingSand

namespace Statement

/-- The statement to which a path leads from a statement under some clauses, with the clauses around
it. -/
def reach? (clauses : List Clause) (statement : Statement) :
    (path : List Nat) → Option (List Clause × Statement)
  | [] => some (clauses, statement)
  | index :: path =>
      match statement with
      | block own body => body[index]?.bind fun inner => inner.reach? (clauses ++ own) path
      | _ => none

mutual

theorem reach?_of_mem_entries (path : List Nat) (clauses : List Clause) :
    (statement : Statement) → ∀ entry ∈ statement.entries path clauses,
      ∃ further, entry.path = path ++ further ∧
        statement.reach? clauses further = some (entry.clauses, entry.statement)
  | .block own body => by
      intro entry listed
      rw [entries] at listed
      rcases List.mem_cons.mp listed with rfl | below
      · exact ⟨[], (List.append_nil path).symm, rfl⟩
      · obtain ⟨place, further, same, leads⟩ :=
          reach?_of_mem_entriesFrom path (clauses ++ own) 0 body entry below
        exact ⟨place :: further, by rw [same, Nat.zero_add], leads⟩
  | .title _ | .element _ _ | .relation _ _ | .member _ _ | .property _ _ _ | .tag _ _
  | .name _ _ | .description _ _ | .reaction _ _ _ _ _ | .transition _ _ _ => by
      intro entry listed
      obtain rfl := List.mem_singleton.mp listed
      exact ⟨[], (List.append_nil path).symm, rfl⟩

theorem reach?_of_mem_entriesFrom (parent : List Nat) (clauses : List Clause) (index : Nat) :
    (statements : List Statement) → ∀ entry ∈ entriesFrom parent clauses index statements,
      ∃ place further, entry.path = parent ++ (index + place) :: further ∧
        (statements[place]?.bind fun statement => statement.reach? clauses further) =
          some (entry.clauses, entry.statement)
  | [] => by
      intro entry listed
      cases listed
  | statement :: rest => by
      intro entry listed
      rw [entriesFrom] at listed
      rcases List.mem_append.mp listed with first | later
      · obtain ⟨further, same, leads⟩ :=
          reach?_of_mem_entries (parent ++ [index]) clauses statement entry first
        exact ⟨0, further, by simp [same], leads⟩
      · obtain ⟨place, further, same, leads⟩ :=
          reach?_of_mem_entriesFrom parent clauses (index + 1) rest entry later
        exact ⟨place + 1, further, by rw [same, Nat.add_assoc, Nat.add_comm 1], leads⟩

end

end Statement

namespace Declarations

/-- The statement of a mod to which a path leads, with the clauses around it. -/
def reach? (declarations : Declarations) : (path : List Nat) → Option (List Clause × Statement)
  | [] => none
  | index :: path => declarations[index]?.bind fun statement => statement.reach? [] path

/-- The path of an entry leads to its statement, under its clauses. -/
theorem reach?_path {declarations : Declarations} {entry : Entry}
    (listed : entry ∈ declarations.entries) :
    declarations.reach? entry.path = some (entry.clauses, entry.statement) := by
  obtain ⟨place, further, same, leads⟩ :=
    Statement.reach?_of_mem_entriesFrom [] [] 0 declarations entry listed
  rw [same, Nat.zero_add]
  exact leads

end Declarations
end FallingSand
