import FallingSand.Element

/-!
# Declarations

A mod declares its elements and rules by an ordered list of statements.  A statement refers to
elements by terms, which are names or, under the clauses of a block, variables that the clauses
bind.  The order of statements decides precedence, never which rules there are.
-/

namespace FallingSand

/-- What a statement refers to. -/
inductive Term where
  /-- The element of that name. -/
  | element (name : String)
  /-- Whatever an enclosing clause binds the variable to. -/
  | var (name : String)
  deriving DecidableEq, Repr

namespace Term

/-- A leading apostrophe makes a variable of the text after it. -/
def ofText (text : String) : Term :=
  match text.toList with
  | '\'' :: rest => var (String.ofList rest)
  | _ => element text

/-- The text of a term. -/
def toText : Term → String
  | element name => name
  | var name => "'" ++ name

/-- The name of a variable. -/
def var? : Term → Option String
  | var name => some name
  | element _ => none

end Term

/-- One condition of a block: a tuple of the relation matches the terms. -/
structure Clause where
  /-- Name of the relation. -/
  relation : String
  /-- Terms in the order of the tuple. -/
  terms : List Term
  deriving DecidableEq, Repr

/-- A statement of a mod. -/
inductive Statement where
  /-- The title of the mod. -/
  | title (text : String)
  /-- A new element with its color. -/
  | element (name color : String)
  /-- A new relation on tuples of `arity` elements. -/
  | relation (name : String) (arity : Nat)
  /-- The terms are a tuple of the relation. -/
  | member (relation : String) (terms : List Term)
  /-- A property of the subject. -/
  | property (key : PropertyKey) (subject : Term) (value : Single)
  /-- A category of the subject. -/
  | tag (subject : Term) (text : String)
  /-- The name to show for the subject. -/
  | name (subject : Term) (text : String)
  /-- A piece of the description of the subject. -/
  | description (subject : Term) (text : String)
  /-- `left` beside `right` may turn them into `outLeft` and `outRight`. -/
  | reaction (probability : Single) (left right outLeft outRight : Term)
  /-- `source` may turn into `target`. -/
  | transition (probability : Single) (source target : Term)
  /-- The statements of the body, for every way to meet the clauses. -/
  | block (clauses : List Clause) (body : List Statement)

namespace Statement

/-- The terms of a statement, without those of a body. -/
def terms : Statement → List Term
  | member _ terms => terms
  | property _ subject _ => [subject]
  | tag subject _ => [subject]
  | name subject _ => [subject]
  | description subject _ => [subject]
  | reaction _ left right outLeft outRight => [left, right, outLeft, outRight]
  | transition _ source target => [source, target]
  | title _ | element _ _ | relation _ _ | block _ _ => []

end Statement

/-- The statements of a mod. -/
abbrev Declarations := List Statement

/-! ## Flattening -/

/-- A statement of a mod at its position. -/
structure Entry where
  /-- Indices that lead from the top to the statement, outermost first. -/
  path : List Nat
  /-- The clauses of all enclosing blocks, outermost first. -/
  clauses : List Clause
  /-- The statement. -/
  statement : Statement

namespace Statement

mutual

/-- A statement and, if it is a block, all statements below it, each before its own body. -/
def entries (path : List Nat) (clauses : List Clause) : Statement → List Entry
  | block own body =>
      ⟨path, clauses, block own body⟩ :: entriesFrom path (clauses ++ own) 0 body
  | statement => [⟨path, clauses, statement⟩]

/-- The entries of consecutive statements, the first of which has the given index. -/
def entriesFrom (parent : List Nat) (clauses : List Clause) (index : Nat) :
    List Statement → List Entry
  | [] => []
  | statement :: rest =>
      entries (parent ++ [index]) clauses statement ++
        entriesFrom parent clauses (index + 1) rest

end

end Statement

/-- Every statement of a mod at its position, a block before its body.  The place of a statement in
this list is its ordinal. -/
def Declarations.entries (declarations : Declarations) : List Entry :=
  Statement.entriesFrom [] [] 0 declarations

end FallingSand
