import FallingSand.Mod.Catalog
import FallingSand.Mod.Statement

/-!
# What a mod declares

The title, the elements and the relations of a mod, gathered from its statements wherever they
stand.  None of them may stand under a clause.
-/

namespace FallingSand

/-- What the statements so far declare. -/
structure Declared where
  /-- Title of the mod. -/
  title : Option String
  /-- Its elements. -/
  catalog : Catalog
  /-- Its relations, still without members. -/
  registry : Registry

namespace Declared

/-- Nothing but `Empty` is declared. -/
def initial : Declared where
  title := none
  catalog := Catalog.initial
  registry := Registry.empty

/-- Accept a declaration at the top only. -/
def requireTop (entry : Entry) (kind : String) : Except Fault Unit :=
  if entry.clauses.isEmpty then .ok () else .error (.misplacedDeclaration kind)

/-- Take up what one statement declares. -/
def add (declared : Declared) (entry : Entry) : Except Fault Declared :=
  match entry.statement with
  | .title text => do
      requireTop entry "title"
      return { declared with title := some text }
  | .element name color => do
      requireTop entry "element"
      let (_, catalog) ← declared.catalog.define name color
      return { declared with catalog }
  | .relation name arity => do
      requireTop entry "relation"
      let registry ← declared.registry.declare name arity
      return { declared with registry }
  | _ => .ok declared

end Declared

namespace Entry

/-- Locate a fault at the statement of an entry. -/
def locate {α : Type} (entry : Entry) : Except Fault α → Except CompileError α
  | .ok value => .ok value
  | .error fault => .error ⟨entry.path, fault⟩

end Entry

/-- Everything that statements declare, or the first fault among the declarations. -/
def Declared.ofEntries (entries : List Entry) : Except CompileError Declared :=
  entries.foldlM (fun declared entry => entry.locate (declared.add entry)) Declared.initial

end FallingSand
