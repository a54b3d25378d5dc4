import FallingSand.Element

/-!
# Faults of a mod

What can be wrong with a statement, and how it is worded.  A fault found while compiling comes with
the path of the statement that has it.
-/

namespace FallingSand

/-- What is wrong with a statement. -/
inductive Fault where
  /-- No relation has that name. -/
  | undefinedRelation (name : String)
  /-- No element has that name. -/
  | unknownElement (name : String)
  /-- An element of that name exists already. -/
  | duplicateElement (name : String)
  /-- All `limit` identifiers are in use. -/
  | tooManyElements (limit : Nat)
  /-- A relation of that name exists already. -/
  | duplicateRelation (name : String)
  /-- A tuple has the wrong length. -/
  | arityMismatch (relation : String) (expected found : Nat)
  /-- Tuples of a relation would be empty. -/
  | invalidArity (name : String)
  /-- A probability is not between zero and one. -/
  | probabilityOutOfRange (value : Single)
  /-- No enclosing clause mentions a variable. -/
  | unboundVariable (name : String)
  /-- A rule would start from `Empty`. -/
  | emptyReactant
  /-- A property does not accept a value. -/
  | invalidProperty (key : PropertyKey) (value : Single)
  /-- A declaration of that kind stands under a clause. -/
  | misplacedDeclaration (kind : String)
  deriving DecidableEq

namespace Fault

/-- The wording of a fault. -/
def message : Fault → String
  | undefinedRelation name => "undefined relation `" ++ name ++ "`"
  | unknownElement name => "unknown element `" ++ name ++ "`"
  | duplicateElement name => "element `" ++ name ++ "` is already defined"
  | tooManyElements limit =>
      "too many elements, at most " ++ toString limit ++ " are supported"
  | duplicateRelation name => "relation `" ++ name ++ "` is already defined"
  | arityMismatch relation expected found =>
      "relation `" ++ relation ++ "` takes " ++ toString expected ++ " terms, got " ++
        toString found
  | invalidArity name => "relation `" ++ name ++ "` must have an arity of at least 1"
  | probabilityOutOfRange value => "probability " ++ value.toText ++ " is outside [0, 1]"
  | unboundVariable name =>
      "pattern variable `'" ++ name ++ "` is not bound by an enclosing where clause"
  | emptyReactant => "Empty cannot be the source of a rule"
  | invalidProperty key value => "invalid " ++ key.name ++ " value " ++ value.toText
  | misplacedDeclaration kind => kind ++ " declarations are not allowed inside a where block"

end Fault

/-- A fault and the path of the statement that has it. -/
structure CompileError where
  /-- Indices that lead to the statement, outermost first. -/
  path : List Nat
  /-- What is wrong with it. -/
  fault : Fault
  deriving DecidableEq

namespace CompileError

/-- A path in words, counting from one. -/
def pathText (path : List Nat) : String :=
  "statement " ++ " > ".intercalate (path.map fun index => toString (index + 1))

/-- The wording of a compile error. -/
def message (error : CompileError) : String :=
  error.fault.message ++ " (at " ++ pathText error.path ++ ")"

end CompileError
end FallingSand
