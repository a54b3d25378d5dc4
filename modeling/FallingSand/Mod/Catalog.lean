import FallingSand.Mod.Relation

/-!
# The catalog of elements under construction

What statements say about an element is kept with its provenance until every statement is known.
Then, for each property and for the shown name, the assignment of greatest provenance wins, the last
one among equals, and tags and descriptions line up by provenance.  A statement about a named
element outranks every statement that reached it through a relation.
-/

namespace FallingSand

/-- How a statement came to apply to an element. -/
inductive Provenance where
  /-- Through a membership of that origin, by the statement of that ordinal. -/
  | inherited (origin : Origin) (statement : Nat)
  /-- By name, by the statement of that ordinal. -/
  | explicit (statement : Nat)
  deriving DecidableEq, Repr

namespace Provenance

/-- Precedence: explicit statements last, then by origin, then by statement. -/
def le : Provenance → Provenance → Bool
  | inherited _ _, explicit _ => true
  | explicit _, inherited _ _ => false
  | explicit first, explicit second => first ≤ second
  | inherited first statement, inherited second other =>
      if first = second then statement ≤ other else first.le second

end Provenance

/-- What has been said about an element so far. -/
structure Draft where
  /-- Color as declared. -/
  color : Option String
  /-- Winning assignment of each property. -/
  properties : PerProperty (Option (Provenance × Single))
  /-- Winning name to show. -/
  displayName : Option (Provenance × String)
  /-- Pieces of the description in the order in which they were given. -/
  descriptions : Array (Provenance × String)
  /-- Tags in the order in which they were given. -/
  tags : Array (Provenance × String)

/-- The assignment that stands after a further one: the further one unless it is outranked. -/
def prevail {α : Type} (current : Option (Provenance × α)) (provenance : Provenance) (value : α) :
    Option (Provenance × α) :=
  match current with
  | some (standing, _) => if standing.le provenance then some (provenance, value) else current
  | none => some (provenance, value)

/-- The texts in the order of their least provenance, each once. -/
def orderedUnique (pieces : Array (Provenance × String)) : List String :=
  ((pieces.toList.mergeSort fun first second => first.1.le second.1).map (·.2)).eraseDups

namespace Draft

/-- A new element. -/
def ofColor (color : Option String) : Draft where
  color
  properties := PerProperty.fill none
  displayName := none
  descriptions := #[]
  tags := #[]

/-- The value of each property: zero where nothing was assigned. -/
def resolve (draft : Draft) : Properties :=
  draft.properties.map fun assignment => (assignment.map (·.2)).getD Single.zero

/-- Assign a property. -/
def assign (draft : Draft) (key : PropertyKey) (value : Single) (provenance : Provenance) : Draft :=
  { draft with
    properties := draft.properties.set key (prevail (draft.properties.get key) provenance value) }

/-- Add a tag. -/
def addTag (draft : Draft) (text : String) (provenance : Provenance) : Draft :=
  { draft with tags := draft.tags.push (provenance, text) }

/-- Set the name to show. -/
def setDisplayName (draft : Draft) (text : String) (provenance : Provenance) : Draft :=
  { draft with displayName := prevail draft.displayName provenance text }

/-- The element that the draft describes. -/
def finish (draft : Draft) (id : ElementId) (name : String) (relations : List String) :
    Element where
  id
  name
  color := draft.color
  displayName := draft.displayName.map (·.2)
  description := String.join (orderedUnique draft.descriptions)
  tags := orderedUnique draft.tags
  properties := draft.resolve
  relations

/-- Add a piece of description. -/
def addDescription (draft : Draft) (text : String) (provenance : Provenance) : Draft :=
  { draft with descriptions := draft.descriptions.push (provenance, text) }

end Draft

/-- How many elements there can be, `Empty` included. -/
def maxElements : Nat := 65536

/-- The elements of a mod under construction. -/
structure Catalog where
  /-- Names of the elements. -/
  names : Roster
  /-- What has been said about each, at the places of their names. -/
  drafts : Array Draft
  /-- Ordinal of the next direct assignment. -/
  nextDirect : Nat
  /-- Each name has a draft. -/
  size_drafts : drafts.size = names.size
  /-- There is always `Empty`. -/
  size_pos : 0 < names.size
  /-- Every element has an identifier of its own. -/
  size_le : names.size ≤ maxElements

namespace Catalog

/-- The catalog with `Empty` alone. -/
def initial : Catalog where
  names := Roster.empty.insert emptyName (Roster.find?_empty emptyName)
  drafts := #[Draft.ofColor none]
  nextDirect := 0
  size_drafts := by simp
  size_pos := by simp
  size_le := by simp [maxElements]

/-- How many elements there are. -/
def size (catalog : Catalog) : Nat :=
  catalog.names.size

/-- Declare an element; its identifier is the number of elements before it. -/
@[inline]
def define (catalog : Catalog) (name color : String) : Except Fault (ElementId × Catalog) :=
  match fresh : catalog.names.find? name with
  | some _ => .error (.duplicateElement name)
  | none =>
      if room : catalog.size < maxElements then
        .ok
          (⟨UInt16.ofNat catalog.size⟩,
            { catalog with
              names := catalog.names.insert name fresh
              drafts := catalog.drafts.push (Draft.ofColor (some color))
              size_drafts := by simp [catalog.size_drafts]
              size_pos := by simp
              size_le := by
                rw [Roster.size_insert]
                exact room })
      else .error (.tooManyElements maxElements)

/-- Declare elements with their names and colors in order.  The first that cannot be declared ends
it, and those before it stay. -/
def defineAll (catalog : Catalog) : List (String × String) → Except Fault Unit × Catalog
  | [] => (.ok (), catalog)
  | (name, color) :: rest =>
      match catalog.define name color with
      | .ok (_, defined) => defined.defineAll rest
      | .error fault => (.error fault, catalog)

/-- The element of a name. -/
def idOf (catalog : Catalog) (name : String) : Except Fault ElementId :=
  match catalog.names.find? name with
  | some place => .ok ⟨UInt16.ofNat place⟩
  | none => .error (.unknownElement name)

/-- Change what is said about an element.  An identifier that the catalog does not have is out of
bounds, where the program would stop; here nothing changes then. -/
def revise (catalog : Catalog) (id : ElementId) (change : Draft → Draft) : Catalog :=
  { catalog with
    drafts := catalog.drafts.modify id.toNat change
    size_drafts := by rw [Array.size_modify, catalog.size_drafts] }

/-- Assign a property. -/
def assign (catalog : Catalog) (id : ElementId) (key : PropertyKey) (value : Single)
    (provenance : Provenance) : Except Fault Catalog :=
  if key.accepts value then .ok (catalog.revise id fun draft => draft.assign key value provenance)
  else .error (.invalidProperty key value)

/-- Assign a property through a membership of the given origin. -/
def inherit (catalog : Catalog) (id : ElementId) (key : PropertyKey) (value : Single)
    (origin : Origin) (statement : Nat) : Except Fault Catalog :=
  catalog.assign id key value (.inherited origin statement)

/-- Assign a property of a named element directly.  Direct assignments are explicit and numbered
among themselves, and one that is refused for its value uses up its number. -/
def assignDirect (catalog : Catalog) (name : String) (key : PropertyKey) (value : Single) :
    Except Fault Unit × Catalog :=
  match catalog.idOf name with
  | .error fault => (.error fault, catalog)
  | .ok id =>
      let counted := { catalog with nextDirect := catalog.nextDirect + 1 }
      match counted.assign id key value (.explicit catalog.nextDirect) with
      | .error fault => (.error fault, counted)
      | .ok assigned => (.ok (), assigned)

/-- Add a tag to an element. -/
def addTag (catalog : Catalog) (id : ElementId) (text : String) (provenance : Provenance) :
    Catalog :=
  catalog.revise id fun draft => draft.addTag text provenance

/-- Set the name to show for an element. -/
def setDisplayName (catalog : Catalog) (id : ElementId) (text : String)
    (provenance : Provenance) : Catalog :=
  catalog.revise id fun draft => draft.setDisplayName text provenance

/-- Add a piece to the description of an element. -/
def addDescription (catalog : Catalog) (id : ElementId) (text : String)
    (provenance : Provenance) : Catalog :=
  catalog.revise id fun draft => draft.addDescription text provenance

/-- The properties of a named element as they stand. -/
def resolve (catalog : Catalog) (name : String) : Except Fault Properties :=
  match (catalog.names.find? name).bind (catalog.drafts[·]?) with
  | some draft => .ok draft.resolve
  | none => .error (.unknownElement name)

/-- The finished table. -/
def resolveAll (catalog : Catalog) (relationsOf : ElementId → List String) : ElementTable where
  entries :=
    Array.ofFn fun place : Fin catalog.names.size =>
      have := place.isLt
      have := catalog.size_drafts
      have : catalog.names.size = catalog.names.names.size := rfl
      let id : ElementId := ⟨UInt16.ofNat place⟩
      catalog.drafts[place].finish id catalog.names.names[place] (relationsOf id)
  size_pos := by simpa using catalog.size_pos

end Catalog
end FallingSand
