import FallingSand.Mod.Fault
import FallingSand.Roster
import Std.Data.HashSet

/-!
# Relations

A relation is a growing set of tuples of elements, all of the length of its arity.  The registry
numbers the tuples in the order in which they are found, over all relations, and remembers with each
the statement that asserted it.
-/

namespace FallingSand

/-- Where a membership came from. -/
structure Origin where
  /-- Ordinal of the statement that asserted it. -/
  statement : Nat
  /-- Number of memberships found before it. -/
  sequence : Nat
  deriving DecidableEq, Repr, Inhabited

namespace Origin

/-- Origins are ordered by statement, then by discovery. -/
def le (first second : Origin) : Bool :=
  first.statement < second.statement ||
    (first.statement == second.statement && first.sequence ≤ second.sequence)

/-- The later of two origins. -/
def max (first second : Origin) : Origin :=
  if first.le second then second else first

end Origin

/-- A tuple of a relation. -/
structure Membership where
  /-- First element of the tuple. -/
  subject : ElementId
  /-- The other elements. -/
  args : List ElementId
  /-- Where it came from. -/
  origin : Origin
  deriving DecidableEq

namespace Membership

/-- The whole tuple. -/
def tuple (membership : Membership) : List ElementId :=
  membership.subject :: membership.args

end Membership

/-- What is declared for every subject of a relation. -/
structure Template where
  /-- Values of properties, in the order of the statements. -/
  properties : List (PropertyKey × Single)
  /-- Tags, in the order of the statements. -/
  tags : List String

namespace Template

/-- A template that says nothing. -/
def empty : Template where
  properties := []
  tags := []

/-- The value for a property: that of the last statement. -/
def get? (template : Template) (key : PropertyKey) : Option Single :=
  (template.properties.findRev? fun entry => entry.1 == key).map (·.2)

end Template

/-- A declared relation. -/
structure Relation where
  /-- Name that clauses refer to. -/
  name : String
  /-- Length of its tuples. -/
  arity : Nat
  /-- What is declared for its subjects. -/
  template : Template
  /-- Its tuples in the order of discovery. -/
  members : Array Membership
  /-- Its tuples alone. -/
  tuples : Std.HashSet (List ElementId)
  /-- The tuples alone are those of the members. -/
  mem_tuples : ∀ tuple, tuple ∈ tuples ↔ ∃ membership ∈ members, membership.tuple = tuple

namespace Relation

/-- A relation without tuples. -/
def ofArity (name : String) (arity : Nat) : Relation where
  name
  arity
  template := Template.empty
  members := #[]
  tuples := ∅
  mem_tuples := by simp

/-- Whether a tuple belongs to the relation. -/
def holds (relation : Relation) (tuple : List ElementId) : Bool :=
  relation.tuples.contains tuple

theorem holds_iff (relation : Relation) (tuple : List ElementId) :
    relation.holds tuple = true ↔ ∃ membership ∈ relation.members, membership.tuple = tuple :=
  Std.HashSet.contains_iff_mem.trans (relation.mem_tuples tuple)

/-- The relation with one more membership. -/
def add (relation : Relation) (membership : Membership) : Relation :=
  { relation with
    members := relation.members.push membership
    tuples := relation.tuples.insert membership.tuple
    mem_tuples := by
      intro tuple
      rw [Std.HashSet.mem_insert, relation.mem_tuples]
      simp only [beq_iff_eq, Array.mem_push, or_and_right, exists_or, exists_eq_left]
      exact Or.comm }

/-- Whether an element is the subject of a tuple. -/
def hasSubject (relation : Relation) (subject : ElementId) : Bool :=
  relation.members.any fun membership => membership.subject == subject

end Relation

/-- All relations of a mod. -/
structure Registry where
  /-- Names of the relations. -/
  names : Roster
  /-- The relations, at the places of their names. -/
  relations : Array Relation
  /-- Number of memberships of all relations together. -/
  sequence : Nat

namespace Registry

/-- A registry without relations. -/
def empty : Registry where
  names := Roster.empty
  relations := #[]
  sequence := 0

/-- Declare a relation. -/
def declare (registry : Registry) (name : String) (arity : Nat) : Except Fault Registry :=
  if arity = 0 then .error (.invalidArity name)
  else
    match fresh : registry.names.find? name with
    | some _ => .error (.duplicateRelation name)
    | none =>
        .ok
          { registry with
            names := registry.names.insert name fresh
            relations := registry.relations.push (Relation.ofArity name arity) }

/-- The place of a relation. -/
def placeOf (registry : Registry) (name : String) : Except Fault Nat :=
  match registry.names.find? name with
  | some place => .ok place
  | none => .error (.undefinedRelation name)

/-- The relation of a name. -/
def get (registry : Registry) (name : String) : Except Fault Relation :=
  match (registry.names.find? name).bind (registry.relations[·]?) with
  | some relation => .ok relation
  | none => .error (.undefinedRelation name)

/-- The relation of a name, provided that tuples of length `found` fit it. -/
def getFitting (registry : Registry) (name : String) (found : Nat) : Except Fault Relation := do
  let relation ← registry.get name
  if relation.arity = found then .ok relation
  else .error (.arityMismatch name relation.arity found)

/-- The members of the relation at a place. -/
def membersAt (registry : Registry) (place : Nat) : Array Membership :=
  match registry.relations[place]? with
  | some relation => relation.members
  | none => #[]

/-- Whether there is a relation at a place to which a tuple does not belong. -/
def lacksAt (registry : Registry) (place : Nat) (tuple : List ElementId) : Bool :=
  registry.relations[place]?.any fun relation => !relation.holds tuple

/-- Add a tuple to the relation at a place, unless it is there already. -/
def insertAt (registry : Registry) (place : Nat) (subject : ElementId) (args : List ElementId)
    (statement : Nat) : Bool × Registry :=
  if registry.lacksAt place (subject :: args) then
    let membership : Membership := ⟨subject, args, ⟨statement, registry.sequence⟩⟩
    (true,
      { registry with
        relations := registry.relations.modify place (·.add membership)
        sequence := registry.sequence + 1 })
  else (false, registry)

/-- Add a tuple to a relation; tells whether it is new. -/
def insert (registry : Registry) (name : String) (subject : ElementId) (args : List ElementId)
    (statement : Nat) : Except Fault (Bool × Registry) := do
  let place ← registry.placeOf name
  let _ ← registry.getFitting name (1 + args.length)
  return registry.insertAt place subject args statement

/-- Whether an element is the subject of a tuple of the named relation. -/
def isMember (registry : Registry) (name : String) (subject : ElementId) : Bool :=
  match registry.get name with
  | .ok relation => relation.hasSubject subject
  | .error _ => false

/-- The names of the relations of which an element is a subject, in the order in which it joined
them. -/
def relationsOf (registry : Registry) (subject : ElementId) : List String :=
  let joined := registry.relations.toList.filterMap fun relation =>
    (relation.members.find? (·.subject == subject)).map fun first =>
      (first.origin.sequence, relation.name)
  (joined.mergeSort fun first second => first.1 ≤ second.1).map (·.2)

/-- Number of tuples of all relations together. -/
def memberCount (registry : Registry) : Nat :=
  registry.relations.foldl (fun count relation => count + relation.members.size) 0

end Registry
end FallingSand
