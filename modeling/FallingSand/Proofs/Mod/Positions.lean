import FallingSand.Proofs.Mod.Places
import FallingSand.Proofs.Mod.Verdict

/-!
# The positions of statements

The entries of a mod are its statements in the order in which a reader meets them: a block, then its
body, then what follows it.  Every position of the tree has exactly one entry, the paths of the
entries increase from one to the next, and the clauses of an entry are those of the blocks above it.
Numbering the statements while they are gathered gives each entry its place in the list.
-/

namespace FallingSand

namespace Statement

/-! ## Going down -/

/-- The statements in a block. -/
def body : Statement → List Statement
  | block _ body => body
  | _ => []

/-- The statement to which a path leads, each index picking one from the body of the one before. -/
def descend? (statement : Statement) : (path : List Nat) → Option Statement
  | [] => some statement
  | index :: path => statement.body[index]?.bind fun inner => inner.descend? path

theorem reach?_cons (clauses : List Clause) (statement : Statement) (index : Nat)
    (path : List Nat) :
    statement.reach? clauses (index :: path) =
      statement.body[index]?.bind fun inner =>
        inner.reach? (clauses ++ statement.header) path := by
  cases statement <;> rfl

theorem descend?_eq (clauses : List Clause) (statement : Statement) (path : List Nat) :
    statement.descend? path = (statement.reach? clauses path).map (·.2) := by
  induction path generalizing clauses statement with
  | nil => rfl
  | cons index path induction =>
      rw [reach?_cons, descend?, Option.map_bind]
      congr 1
      funext inner
      exact induction _ inner

/-- One index more picks from the body of the statement that has been reached. -/
theorem reach?_concat (clauses : List Clause) (statement : Statement) (path : List Nat)
    (index : Nat) :
    statement.reach? clauses (path ++ [index]) =
      (statement.reach? clauses path).bind fun reached =>
        reached.2.body[index]?.map fun inner => (reached.1 ++ reached.2.header, inner) := by
  induction path generalizing clauses statement with
  | nil =>
      rw [List.nil_append, reach?_cons]
      exact Option.map_eq_bind.symm
  | cons first path induction =>
      rw [List.cons_append, reach?_cons, reach?_cons, Option.bind_assoc]
      congr 1
      funext inner
      exact induction _ inner

/-! ## Every position has an entry -/

mutual

theorem mem_entries_of_reach? (path : List Nat) (clauses : List Clause) :
    (statement : Statement) → ∀ further around reached,
      statement.reach? clauses further = some (around, reached) →
        ⟨path ++ further, around, reached⟩ ∈ statement.entries path clauses
  | .block own body => by
      intro further around reached leads
      cases further with
      | nil =>
          cases leads
          rw [entries, List.append_nil]
          exact List.mem_cons_self
      | cons index further =>
          rw [reach?_cons] at leads
          rw [entries]
          refine List.mem_cons_of_mem _ ?_
          have below := mem_entriesFrom_of_reach? path (clauses ++ own) 0 body index further around
            reached leads
          rwa [Nat.zero_add] at below
  | .title _ | .element _ _ | .relation _ _ | .member _ _ | .property _ _ _ | .tag _ _
  | .name _ _ | .description _ _ | .reaction _ _ _ _ _ | .transition _ _ _ => by
      intro further around reached leads
      cases further with
      | nil =>
          cases leads
          rw [List.append_nil]
          exact List.mem_cons_self
      | cons index further => cases leads

theorem mem_entriesFrom_of_reach? (parent : List Nat) (clauses : List Clause) (index : Nat) :
    (statements : List Statement) → ∀ place further around reached,
      (statements[place]?.bind fun statement => statement.reach? clauses further) =
          some (around, reached) →
        ⟨parent ++ (index + place) :: further, around, reached⟩ ∈
          entriesFrom parent clauses index statements
  | [] => by
      intro place further around reached leads
      cases leads
  | statement :: rest => by
      intro place further around reached leads
      rw [entriesFrom]
      cases place with
      | zero =>
          refine List.mem_append_left _ ?_
          have here := mem_entries_of_reach? (parent ++ [index]) clauses statement further around
            reached leads
          rwa [List.append_assoc] at here
      | succ place =>
          refine List.mem_append_right _ ?_
          have later := mem_entriesFrom_of_reach? parent clauses (index + 1) rest place further
            around reached leads
          rwa [Nat.add_assoc, Nat.add_comm 1] at later

end

/-! ## The order of the paths -/

mutual

theorem pairwise_entries (path : List Nat) (clauses : List Clause) :
    (statement : Statement) →
      (statement.entries path clauses).Pairwise fun first second => first.path < second.path
  | .block own body => by
      rw [entries]
      refine List.pairwise_cons.mpr
        ⟨fun entry below => ?_, pairwise_entriesFrom path (clauses ++ own) 0 body⟩
      obtain ⟨place, further, same, -⟩ :=
        reach?_of_mem_entriesFrom path (clauses ++ own) 0 body entry below
      have longer : path ++ [] < path ++ (0 + place) :: further :=
        List.append_left_lt (List.nil_lt_cons _ _)
      rwa [same, ← List.append_nil path, List.append_assoc]
  | .title _ | .element _ _ | .relation _ _ | .member _ _ | .property _ _ _ | .tag _ _
  | .name _ _ | .description _ _ | .reaction _ _ _ _ _ | .transition _ _ _ =>
      List.pairwise_singleton _ _

theorem pairwise_entriesFrom (parent : List Nat) (clauses : List Clause) (index : Nat) :
    (statements : List Statement) →
      (entriesFrom parent clauses index statements).Pairwise fun first second =>
        first.path < second.path
  | [] => List.Pairwise.nil
  | statement :: rest => by
      rw [entriesFrom]
      refine List.pairwise_append.mpr ⟨pairwise_entries (parent ++ [index]) clauses statement,
        pairwise_entriesFrom parent clauses (index + 1) rest, fun first here second later => ?_⟩
      obtain ⟨further, same, -⟩ := reach?_of_mem_entries (parent ++ [index]) clauses statement
        first here
      obtain ⟨place, beyond, other, -⟩ :=
        reach?_of_mem_entriesFrom parent clauses (index + 1) rest second later
      rw [same, other, List.append_assoc]
      exact List.append_left_lt (List.cons_lt_cons_iff.mpr (.inl (by omega)))

end

/-! ## Numbering while gathering -/

mutual

/-- Put a statement and all statements below it behind the entries gathered so far, each with the
number of those before it. -/
def gather (path : List Nat) (clauses : List Clause) (gathered : List (Entry × Nat)) :
    Statement → List (Entry × Nat)
  | block own body =>
      gatherFrom path (clauses ++ own) 0
        (gathered ++ [(⟨path, clauses, block own body⟩, gathered.length)]) body
  | statement => gathered ++ [(⟨path, clauses, statement⟩, gathered.length)]

/-- Put consecutive statements, the first of which has the given index, behind the entries gathered
so far. -/
def gatherFrom (parent : List Nat) (clauses : List Clause) (index : Nat)
    (gathered : List (Entry × Nat)) : List Statement → List (Entry × Nat)
  | [] => gathered
  | statement :: rest =>
      gatherFrom parent clauses (index + 1) (gather (parent ++ [index]) clauses gathered statement)
        rest

end

mutual

theorem gather_eq (path : List Nat) (clauses : List Clause) (gathered : List (Entry × Nat)) :
    (statement : Statement) →
      statement.gather path clauses gathered =
        gathered ++ (statement.entries path clauses).zipIdx gathered.length
  | .block own body => by
      rw [gather, gatherFrom_eq path (clauses ++ own) 0 _ body, entries, List.zipIdx_cons,
        List.append_assoc, List.length_append]
      rfl
  | .title _ | .element _ _ | .relation _ _ | .member _ _ | .property _ _ _ | .tag _ _
  | .name _ _ | .description _ _ | .reaction _ _ _ _ _ | .transition _ _ _ => rfl

theorem gatherFrom_eq (parent : List Nat) (clauses : List Clause) (index : Nat)
    (gathered : List (Entry × Nat)) :
    (statements : List Statement) →
      gatherFrom parent clauses index gathered statements =
        gathered ++ (entriesFrom parent clauses index statements).zipIdx gathered.length
  | [] => (List.append_nil _).symm
  | statement :: rest => by
      rw [gatherFrom, gather_eq (parent ++ [index]) clauses gathered statement,
        gatherFrom_eq parent clauses (index + 1) _ rest, entriesFrom, List.zipIdx_append,
        List.append_assoc, List.length_append, List.length_zipIdx]

end

end Statement

namespace Declarations

variable {declarations : Declarations}

/-- The entries of a mod, numbered while they are gathered. -/
def numbered (declarations : Declarations) : List (Entry × Nat) :=
  Statement.gatherFrom [] [] 0 [] declarations

theorem numbered_eq (declarations : Declarations) :
    declarations.numbered = declarations.entries.zipIdx :=
  Statement.gatherFrom_eq [] [] 0 [] declarations

/-- The statement of a mod to which a path leads. -/
def at? (declarations : Declarations) : (path : List Nat) → Option Statement
  | [] => none
  | index :: path => declarations[index]?.bind fun statement => statement.descend? path

/-- The statements above a position, the outermost first: those to which the shorter beginnings of
its path lead. -/
def ancestors (declarations : Declarations) (path : List Nat) : List Statement :=
  (List.range path.length).filterMap fun depth => declarations.at? (path.take depth)

theorem at?_eq (declarations : Declarations) (path : List Nat) :
    declarations.at? path = (declarations.reach? path).map (·.2) := by
  cases path with
  | nil => rfl
  | cons index path =>
      rw [at?, reach?, Option.map_bind]
      congr 1
      funext statement
      exact statement.descend?_eq [] path

theorem mem_entries_iff {entry : Entry} :
    entry ∈ declarations.entries ↔
      declarations.reach? entry.path = some (entry.clauses, entry.statement) := by
  refine ⟨reach?_path, fun leads => ?_⟩
  obtain ⟨path, clauses, statement⟩ := entry
  cases path with
  | nil => cases leads
  | cons index path =>
      have listed := Statement.mem_entriesFrom_of_reach? [] [] 0 declarations index path clauses
        statement leads
      rwa [Nat.zero_add] at listed

theorem reach?_concat (declarations : Declarations) {path : List Nat} (deep : path ≠ [])
    (index : Nat) :
    declarations.reach? (path ++ [index]) =
      (declarations.reach? path).bind fun reached =>
        reached.2.body[index]?.map fun inner => (reached.1 ++ reached.2.header, inner) := by
  obtain ⟨first, path, rfl⟩ := List.exists_cons_of_ne_nil deep
  rw [List.cons_append, reach?, reach?, Option.bind_assoc]
  congr 1
  funext statement
  exact statement.reach?_concat [] path index

theorem ancestors_concat (declarations : Declarations) (path : List Nat) (index : Nat) :
    declarations.ancestors (path ++ [index]) =
      declarations.ancestors path ++ (declarations.at? path).toList := by
  have shorter : (List.range path.length).filterMap
        (fun depth => declarations.at? ((path ++ [index]).take depth)) =
      declarations.ancestors path := by
    refine List.filterMap_congr fun depth inside => ?_
    rw [List.take_append_of_le_length (Nat.le_of_lt (List.mem_range.mp inside))]
  rw [ancestors, List.length_append, List.length_singleton, List.range_succ,
    List.filterMap_append, shorter, List.filterMap_cons, List.take_left]
  cases declarations.at? path <;> rfl

/-- Each index of a path but the last leads to a block, and the clauses around the end of the path
are those of these blocks. -/
theorem ancestors_of_reach? {path : List Nat} {clauses : List Clause} {statement : Statement}
    (leads : declarations.reach? path = some (clauses, statement)) :
    (declarations.ancestors path).length + 1 = path.length ∧
      (∀ ancestor ∈ declarations.ancestors path, ∃ own body, ancestor = .block own body) ∧
      clauses = (declarations.ancestors path).flatMap Statement.header := by
  induction path using List.reverseRecOn generalizing clauses statement with
  | nil => cases leads
  | append_singleton path index induction =>
      by_cases top : path = []
      · subst top
        obtain ⟨found, -, same⟩ := Option.bind_eq_some_iff.mp leads
        cases same
        exact ⟨rfl, by simp [ancestors, at?], rfl⟩
      · rw [reach?_concat declarations top] at leads
        obtain ⟨⟨around, outer⟩, above, picked⟩ := Option.bind_eq_some_iff.mp leads
        obtain ⟨inner, inside, same⟩ := Option.map_eq_some_iff.mp picked
        obtain ⟨rfl, rfl⟩ := Prod.mk.inj same
        obtain ⟨long, blocks, rfl⟩ := induction above
        have parent : declarations.at? path = some outer := by rw [at?_eq, above]; rfl
        rw [ancestors_concat, parent]
        refine ⟨by simp [← long], fun ancestor listed => ?_, by simp⟩
        rcases List.mem_append.mp listed with higher | last
        · exact blocks ancestor higher
        · obtain rfl := List.mem_singleton.mp last
          cases ancestor with
          | block own body => exact ⟨own, body, rfl⟩
          | _ => cases inside

theorem pairwise_path (declarations : Declarations) :
    declarations.entries.Pairwise fun first second => first.path < second.path :=
  Statement.pairwise_entriesFrom [] [] 0 declarations

theorem nodup_path (declarations : Declarations) :
    (declarations.entries.map (·.path)).Nodup := by
  refine List.pairwise_map.mpr (declarations.pairwise_path.imp fun {first second} before same => ?_)
  exact List.lt_irrefl second.path (same ▸ before)

/-- Two entries with the same path stand in the same place. -/
theorem place_unique {first second : Nat} {one other : Entry}
    (here : declarations.entries[first]? = some one)
    (there : declarations.entries[second]? = some other) (same : one.path = other.path) :
    first = second := by
  have inside : first < (declarations.entries.map (·.path)).length := by
    rw [List.length_map]
    exact (List.getElem?_eq_some_iff.mp here).1
  refine (List.getElem?_inj inside declarations.nodup_path).mp ?_
  rw [List.getElem?_map, List.getElem?_map, here, there, Option.map_some, Option.map_some, same]

/-- The statements of a mod are listed in the order of their paths, each position of the tree once.
A statement has its place in the list as its number, its path leads to it, and its clauses are those
of all blocks above it, the outermost first. -/
theorem entries_preorder (declarations : Declarations) :
    declarations.numbered = declarations.entries.zipIdx ∧
    (declarations.entries.map (·.path)).Pairwise (· < ·) ∧
    (declarations.entries.map (·.path)).Nodup ∧
    (∀ path statement, declarations.at? path = some statement →
      ∃! place : Nat, ∃ clauses,
        declarations.entries[place]? = some ⟨path, clauses, statement⟩) ∧
    ∀ entry ∈ declarations.entries,
      declarations.at? entry.path = some entry.statement ∧
      (declarations.ancestors entry.path).length + 1 = entry.path.length ∧
      (∀ ancestor ∈ declarations.ancestors entry.path, ∃ own body, ancestor = .block own body) ∧
      entry.clauses = (declarations.ancestors entry.path).flatMap Statement.header := by
  refine ⟨declarations.numbered_eq, List.pairwise_map.mpr declarations.pairwise_path,
    declarations.nodup_path, fun path statement leads => ?_, fun entry listed => ?_⟩
  · rw [at?_eq] at leads
    obtain ⟨⟨clauses, found⟩, reached, rfl⟩ := Option.map_eq_some_iff.mp leads
    have listed : (⟨path, clauses, found⟩ : Entry) ∈ declarations.entries :=
      mem_entries_iff.mpr reached
    obtain ⟨place, stands⟩ := List.getElem?_of_mem listed
    refine ⟨place, ⟨clauses, stands⟩, fun other there => ?_⟩
    obtain ⟨around, there⟩ := there
    exact place_unique there stands rfl
  · have leads := mem_entries_iff.mp listed
    exact ⟨by rw [at?_eq, leads, Option.map_some], ancestors_of_reach? leads⟩

end Declarations
end FallingSand
