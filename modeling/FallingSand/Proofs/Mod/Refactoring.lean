import FallingSand.Proofs.Mod.Contents
import Mathlib.Logic.Relation

/-!
# Joining and cutting blocks

A block that holds nothing but a block may take up its clauses, and a block may be cut in two that
have its clauses each.  Neither changes what the mod says, so that it compiles to the same rule set
up to ordinals.
-/

namespace FallingSand

/-- The second statements are the first after one block has been joined with the only statement in
it, or cut in two, wherever it stands. -/
inductive Refactors : List Statement → List Statement → Prop where
  /-- A block takes up the clauses of a block that is all it holds. -/
  | join (outer inner : List Clause) (body rest : List Statement) :
      Refactors (.block outer [.block inner body] :: rest) (.block (outer ++ inner) body :: rest)
  /-- A block is cut in two with the same clauses. -/
  | cut (clauses : List Clause) (front back rest : List Statement) :
      Refactors (.block clauses (front ++ back) :: rest)
        (.block clauses front :: .block clauses back :: rest)
  /-- That happens after the first statement. -/
  | cons (statement : Statement) {first second : List Statement} (later : Refactors first second) :
      Refactors (statement :: first) (statement :: second)
  /-- That happens inside of a block. -/
  | block (clauses : List Clause) {first second : List Statement} (rest : List Statement)
      (inside : Refactors first second) :
      Refactors (.block clauses first :: rest) (.block clauses second :: rest)

namespace Statement

theorem contentsOf_append (clauses : List Clause) (front back : List Statement) :
    contentsOf clauses (front ++ back) = contentsOf clauses front ++ contentsOf clauses back := by
  induction front with
  | nil => rfl
  | cons statement front induction =>
      rw [List.cons_append, contentsOf, contentsOf, induction, List.append_assoc]

theorem headersOf_append (front back : List Statement) :
    headersOf (front ++ back) = headersOf front ++ headersOf back := by
  induction front with
  | nil => rfl
  | cons statement front induction =>
      rw [List.cons_append, headersOf, headersOf, induction, List.append_assoc]

end Statement

namespace Refactors

variable {first second : List Statement}

theorem contentsOf_eq (refactors : Refactors first second) (around : List Clause) :
    Statement.contentsOf around second = Statement.contentsOf around first := by
  induction refactors generalizing around with
  | join outer inner body rest =>
      simp only [Statement.contentsOf, Statement.contents, List.append_nil, List.append_assoc]
  | cut clauses front back rest =>
      simp only [Statement.contentsOf, Statement.contents, Statement.contentsOf_append,
        List.append_assoc]
  | cons statement later induction => rw [Statement.contentsOf, induction, Statement.contentsOf]
  | block clauses rest inside induction =>
      rw [Statement.contentsOf, Statement.contents, induction, Statement.contentsOf,
        Statement.contents]

theorem mem_headersOf_iff (refactors : Refactors first second) (clause : Clause) :
    clause ∈ Statement.headersOf second ↔ clause ∈ Statement.headersOf first := by
  induction refactors with
  | join outer inner body rest =>
      simp only [Statement.headersOf, Statement.headers, List.append_nil, List.append_assoc]
  | cut clauses front back rest =>
      simp only [Statement.headersOf, Statement.headers, Statement.headersOf_append,
        List.mem_append]
      tauto
  | cons statement later induction =>
      simp only [Statement.headersOf, List.mem_append, induction]
  | block clauses rest inside induction =>
      simp only [Statement.headersOf, Statement.headers, List.mem_append, induction]

end Refactors

namespace Declarations

variable {first second : Declarations}

/-- Refactored mods say the same under the same clauses. -/
theorem contents_eq_of_refactors (refactors : Relation.EqvGen Refactors first second) :
    second.contents = first.contents ∧
      ∀ clause, clause ∈ second.headers ↔ clause ∈ first.headers := by
  induction refactors with
  | rel first second step => exact ⟨step.contentsOf_eq [], step.mem_headersOf_iff⟩
  | refl declarations => exact ⟨rfl, fun _ => Iff.rfl⟩
  | symm first second _ induction =>
      exact ⟨induction.1.symm, fun clause => (induction.2 clause).symm⟩
  | trans first second third _ _ one other =>
      exact ⟨other.1.trans one.1, fun clause => (other.2 clause).trans (one.2 clause)⟩

/-- Joining nested blocks and cutting blocks, anywhere and any number of times, changes neither
whether a mod compiles nor, but for the ordinals of statements, what it compiles to. -/
theorem compile_refactors (refactors : Relation.EqvGen Refactors first second) :
    (Succeeds first.compile ↔ Succeeds second.compile) ∧
      ∀ rules others, first.compile = .ok rules → second.compile = .ok others →
        others.withoutOrdinals = rules.withoutOrdinals := by
  obtain ⟨contents, headers⟩ := contents_eq_of_refactors refactors
  have forth {rules : RuleSet} (compiled : first.compile = .ok rules) :=
    compile_of_contents contents (fun clause listed => (headers clause).mp listed) compiled
  have back {rules : RuleSet} (compiled : second.compile = .ok rules) :=
    compile_of_contents contents.symm (fun clause listed => (headers clause).mpr listed) compiled
  refine ⟨⟨fun ⟨_, compiled⟩ => ?_, fun ⟨_, compiled⟩ => ?_⟩, fun rules others one other => ?_⟩
  · exact (forth compiled).imp fun _ both => both.1
  · exact (back compiled).imp fun _ both => both.1
  · obtain ⟨found, compiled, same⟩ := forth one
    cases compiled.symm.trans other
    exact same

/-- Acid that eats what is soft, in blocks within a block. -/
def etching : Declarations :=
  [.element "Acid" "#80ff00", .element "Chalk" "#f0f0f0",
    .relation "Sour" 1, .relation "Soft" 1,
    .member "Sour" [.element "Acid"],
    .block [⟨"Sour", [.var "acid"]⟩]
      [.block [⟨"Soft", [.var "prey"]⟩]
        [.property .density (.var "prey") Single.one,
          .reaction Single.one (.element "Acid") (.var "prey") (.var "acid") (.element "Empty")]],
    .member "Soft" [.element "Chalk"]]

/-- The same with one block for each statement. -/
def etchingFlat : Declarations :=
  [.element "Acid" "#80ff00", .element "Chalk" "#f0f0f0",
    .relation "Sour" 1, .relation "Soft" 1,
    .member "Sour" [.element "Acid"],
    .block [⟨"Sour", [.var "acid"]⟩, ⟨"Soft", [.var "prey"]⟩]
      [.property .density (.var "prey") Single.one],
    .block [⟨"Sour", [.var "acid"]⟩, ⟨"Soft", [.var "prey"]⟩]
      [.reaction Single.one (.element "Acid") (.var "prey") (.var "acid") (.element "Empty")],
    .member "Soft" [.element "Chalk"]]

theorem etching_refactors : ∃ rules others,
    etching.compile = .ok rules ∧ etchingFlat.compile = .ok others ∧
      others.withoutOrdinals = rules.withoutOrdinals := by
  have refactors : Relation.EqvGen Refactors etching etchingFlat :=
    .trans _ _ _
      (.rel _ _ (.cons _ (.cons _ (.cons _ (.cons _ (.cons _ (.join _ _ _ _)))))))
      (.rel _ _ (.cons _ (.cons _ (.cons _ (.cons _ (.cons _ (.cut _ [_] [_] _)))))))
  obtain ⟨accepts, same⟩ := compile_refactors refactors
  have compiles : Succeeds etching.compile := compile_succeeds (by decide)
    ⟨by decide, by decide, by decide, by decide⟩ (by decide) (by decide)
  obtain ⟨rules, one⟩ := compiles
  obtain ⟨others, other⟩ := accepts.mp ⟨rules, one⟩
  exact ⟨rules, others, one, other, same rules others one other⟩

end Declarations
end FallingSand
