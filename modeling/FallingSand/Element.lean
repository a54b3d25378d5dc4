import FallingSand.Number.Single

/-!
# Elements

An element is a kind of particle.  Element zero, `Empty`, marks an unoccupied cell.  Four numbers
rule how an element moves; the rest of an element is for people to read.  A table of elements
answers every identifier: one that it does not know stands for `Empty`.
-/

namespace FallingSand

/-- The dense identifier of an element, in order of declaration. -/
structure ElementId where
  /-- Place of the element in its table. -/
  index : UInt16
  deriving DecidableEq, Hashable, Repr

namespace ElementId

/-- The element of an unoccupied cell. -/
def empty : ElementId := ⟨0⟩

instance : Inhabited ElementId := ⟨empty⟩

/-- Whether this is the element of an unoccupied cell. -/
def isEmpty (id : ElementId) : Bool :=
  id == empty

/-- The place of the element as a natural number. -/
def toNat (id : ElementId) : Nat :=
  id.index.toNat

theorem toNat_injective {first second : ElementId} (same : first.toNat = second.toNat) :
    first = second := by
  cases first
  cases second
  simpa [toNat, UInt16.toNat_inj] using same

end ElementId

/-- The name of element zero. -/
def emptyName : String := "Empty"

/-- The numbers that rule how an element moves. -/
inductive PropertyKey where
  /-- Settling order: denser elements sink through lighter ones. -/
  | density
  /-- Vertical bias: positive falls, negative rises, zero rests. -/
  | gravity
  /-- Chance of a sideways step in a tick. -/
  | spread
  /-- Chance of slipping off diagonally when blocked. -/
  | slide
  deriving DecidableEq, Repr

namespace PropertyKey

/-- The word for a property. -/
def name : PropertyKey → String
  | density => "density"
  | gravity => "gravity"
  | spread => "spread"
  | slide => "slide"

/-- Whether a number may be assigned to a property: it has to be finite, and a chance must not be
negative. -/
def accepts (key : PropertyKey) (value : Single) : Bool :=
  match key with
  | density | gravity => value.isFinite
  | spread | slide => value.isFinite && Single.zero.le value

end PropertyKey

/-- One value for each property. -/
structure PerProperty (α : Type) where
  /-- Value for the density. -/
  density : α
  /-- Value for the gravity. -/
  gravity : α
  /-- Value for the spread. -/
  spread : α
  /-- Value for the slide. -/
  slide : α
  deriving DecidableEq

namespace PerProperty

variable {α β : Type}

/-- The same value for every property. -/
def fill (value : α) : PerProperty α where
  density := value
  gravity := value
  spread := value
  slide := value

/-- The value for a property. -/
def get (values : PerProperty α) : PropertyKey → α
  | .density => values.density
  | .gravity => values.gravity
  | .spread => values.spread
  | .slide => values.slide

/-- Replace the value for a property. -/
def set (values : PerProperty α) (key : PropertyKey) (value : α) : PerProperty α :=
  match key with
  | .density => { values with density := value }
  | .gravity => { values with gravity := value }
  | .spread => { values with spread := value }
  | .slide => { values with slide := value }

/-- Apply a function to every value. -/
def map (f : α → β) (values : PerProperty α) : PerProperty β where
  density := f values.density
  gravity := f values.gravity
  spread := f values.spread
  slide := f values.slide

@[simp]
theorem get_fill (value : α) (key : PropertyKey) : (fill value).get key = value := by
  cases key <;> rfl

@[simp]
theorem get_map (f : α → β) (values : PerProperty α) (key : PropertyKey) :
    (values.map f).get key = f (values.get key) := by
  cases key <;> rfl

theorem get_set (values : PerProperty α) (key other : PropertyKey) (value : α) :
    (values.set key value).get other = if other = key then value else values.get other := by
  cases key <;> cases other <;> rfl

@[simp]
theorem set_get_self (values : PerProperty α) (key : PropertyKey) :
    values.set key (values.get key) = values := by
  cases key <;> rfl

theorem ext_get {values others : PerProperty α} (same : ∀ key, values.get key = others.get key) :
    values = others := by
  cases values
  cases others
  simp only [mk.injEq]
  exact ⟨same .density, same .gravity, same .spread, same .slide⟩

end PerProperty

/-- The four numbers of one element. -/
abbrev Properties := PerProperty Single

namespace Properties

/-- The numbers of an element about which nothing is declared. -/
def none : Properties := PerProperty.fill Single.zero

/-- An element whose gravity is not one of the two zeros can move and be displaced. -/
def isMobile (properties : Properties) : Bool :=
  !properties.gravity.isZero

/-- One for falling, which is toward greater row numbers, minus one for rising, zero for resting. -/
def direction (properties : Properties) : Int :=
  if properties.gravity.isPositive then 1
  else if properties.gravity.isBelowZero then -1
  else 0

theorem direction_cases (properties : Properties) :
    properties.direction = 1 ∨ properties.direction = -1 ∨ properties.direction = 0 := by
  unfold direction
  split
  · exact Or.inl rfl
  · split
    · exact Or.inr (Or.inl rfl)
    · exact Or.inr (Or.inr rfl)

end Properties

/-- An element with everything that was declared about it. -/
structure Element where
  /-- Identifier of the element. -/
  id : ElementId
  /-- Name that statements refer to. -/
  name : String
  /-- Color as declared. -/
  color : Option String
  /-- Name to show instead. -/
  displayName : Option String
  /-- Text that describes the element. -/
  description : String
  /-- Categories for display. -/
  tags : List String
  /-- Numbers that rule its movement. -/
  properties : Properties
  /-- Relations it is a subject of, in the order it joined them. -/
  relations : List String

namespace Element

/-- The name to show. -/
def label (element : Element) : String :=
  element.displayName.getD element.name

/-- Whether the element is in a category. -/
def hasTag (element : Element) (tag : String) : Bool :=
  element.tags.contains tag

end Element

/-- All elements, at the places that their identifiers give. -/
structure ElementTable where
  /-- The elements. -/
  entries : Array Element
  /-- There is always `Empty`. -/
  size_pos : 0 < entries.size

namespace ElementTable

/-- The element at an identifier, or `Empty` for one past the table. -/
def get (table : ElementTable) (id : ElementId) : Element :=
  if inside : id.toNat < table.entries.size then table.entries[id.toNat]
  else
    have := table.size_pos
    table.entries[0]

/-- The numbers of an element. -/
def properties (table : ElementTable) (id : ElementId) : Properties :=
  (table.get id).properties

/-- The name of an element. -/
def nameOf (table : ElementTable) (id : ElementId) : String :=
  (table.get id).name

/-- The first element of a name. -/
def idOf? (table : ElementTable) (name : String) : Option ElementId :=
  (table.entries.findIdx? (·.name == name)).map fun place => ⟨UInt16.ofNat place⟩

/-- How many elements there are. -/
def size (table : ElementTable) : Nat :=
  table.entries.size

/-- The names in order of identifier. -/
def names (table : ElementTable) : Array String :=
  table.entries.map (·.name)

end ElementTable
end FallingSand
