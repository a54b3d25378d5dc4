import FallingSand.Mod.Statement

/-!
# The standard mod

Sand, water, oil, plants, three stages of fire, steam, and sources that keep emitting their element
into empty neighbors.  It is the mod of a simulation for which no other is chosen.
-/

namespace FallingSand
namespace StandardMod

/-- A new element that is listed with all elements. -/
def listed (name color : String) : List Statement :=
  [.element name color, .tag (.element name) "(all)"]

/-- The element is a member of a relation on single elements. -/
def isA (relation name : String) : Statement :=
  .member relation [.element name]

/-- Statements for every tuple of a relation. -/
def whenever (relation : String) (terms : List Term) (body : List Statement) : Statement :=
  .block [⟨relation, terms⟩] body

/-- The variable that most blocks use. -/
def x : Term := .var "x"

/-- What rests where it is. -/
def solids : List Statement :=
  .relation "Solid" 1 ::
    whenever "Solid" [x]
      [.tag x "Solids", .property .density x 1.0, .description x "Solid. "] ::
    listed "Wall" "#808080" ++ [isA "Solid" "Wall"]

/-- What falls and piles up. -/
def dusts : List Statement :=
  .relation "Dust" 1 ::
    whenever "Dust" [x]
      [.tag x "Dusts", .property .gravity x 1.0, .property .spread x 0.1,
        .property .density x 0.9, .description x "Falls. "] ::
    listed "Sand" "#D8E090" ++ [isA "Dust" "Sand"]

/-- What falls and levels out. -/
def liquids : List Statement :=
  .relation "Liquid" 1 ::
    whenever "Liquid" [x]
      [.tag x "Liquids", .property .gravity x 1.0, .property .spread x 0.3,
        .property .slide x 1.0, .property .density x 0.8, .description x "Liquid. "] ::
    listed "Water" "#0000FF" ++ [isA "Liquid" "Water"]

/-- The clause for a burning element and what remains of it when water puts it out. -/
def burning (element : String) : Clause :=
  ⟨"Firey", [.var element, .var "extinguished"]⟩

/-- An element that burns and leaves nothing. -/
def flame (name : String) : Statement :=
  .member "Firey" [.element name, .element "Empty"]

/-- Fire in three stages, each rising faster than the one before. -/
def fire : List Statement :=
  .relation "Firey" 2 ::
    .block [burning "elem"] [.description (.var "elem") "Burns. "] ::
    listed "Fire1" "#FFDF00" ++
    [.name (.element "Fire1") "Fire",
      flame "Fire1",
      .property .gravity (.element "Fire1") (-0.0),
      .property .density (.element "Fire1") 0.5,
      .element "Fire2" "#FF8000",
      flame "Fire2",
      .property .gravity (.element "Fire2") (-0.5),
      .property .density (.element "Fire2") 0.51,
      .element "Fire3" "#FF0000",
      flame "Fire3",
      .property .gravity (.element "Fire3") (-1.0),
      .property .density (.element "Fire3") 0.52,
      .transition 0.2 (.element "Fire1") (.element "Fire2"),
      .transition 0.2 (.element "Fire2") (.element "Fire3"),
      .transition 0.2 (.element "Fire3") (.element "Empty")]

/-- What catches fire. -/
def flammables : List Statement :=
  [.relation "Flammable" 1,
    whenever "Flammable" [x] [.tag x "Flammables", .description x "Flammable. "],
    .block [⟨"Flammable", [.var "fuel"]⟩, burning "fire"]
      [.reaction 1.0 (.var "fuel") (.var "fire") (.element "Fire1") (.var "fire")]]

/-- Oil, which floats on water and burns. -/
def oil : List Statement :=
  listed "Oil" "#804000" ++
    [isA "Liquid" "Oil", .property .density (.element "Oil") 0.7, isA "Flammable" "Oil"]

/-- Plants, which grow into water and burn. -/
def plants : List Statement :=
  listed "Plant" "#008000" ++
    [isA "Solid" "Plant",
      isA "Flammable" "Plant",
      .reaction 1.0 (.element "Water") (.element "Plant") (.element "Plant") (.element "Plant")]

/-- An element that emits another one. -/
def emits (source element : String) : Statement :=
  .member "Source" [.element source, .element element]

/-- Solids that fill their empty neighbors. -/
def sources : List Statement :=
  .relation "Source" 2 ::
    whenever "Source" [.var "source", .var "elem"]
      [.tag (.var "source") "Sources",
        .member "Solid" [.var "source"],
        .reaction 1.0 (.var "source") (.element "Empty") (.var "source") (.var "elem")] ::
    listed "Spring" "#000080" ++ [emits "Spring" "Water"] ++
    listed "Nature" "#808000" ++ [emits "Nature" "Plant"] ++
    listed "OilWell" "#603000" ++
    [.name (.element "OilWell") "Oil Well", emits "OilWell" "Oil"] ++
    listed "Torch" "#800000" ++
    [emits "Torch" "Fire1", .member "Firey" [.element "Torch", .element "Torch"]] ++
    listed "Beach" "#FFFF00" ++ [emits "Beach" "Sand"]

/-- What rises and spreads. -/
def gasses : List Statement :=
  [.relation "Gas" 1,
    whenever "Gas" [x]
      [.description x "Gas. ", .tag x "Gasses", .property .gravity x (-1.0),
        .property .spread x 0.1, .property .density x (-0.9), .property .slide x 1.0],
    .element "Steam" "#E0E0E0",
    isA "Gas" "Steam",
    .transition 0.05 (.element "Steam") (.element "Water")]

/-- Water turns to steam beside fire and puts it out. -/
def extinguishing : Statement :=
  .block [burning "fire"]
    [.reaction 0.1 (.element "Water") (.var "fire") (.element "Steam") (.var "fire"),
      .reaction 0.4 (.element "Water") (.var "fire") (.element "Steam") (.var "extinguished"),
      .reaction 0.5 (.element "Water") (.var "fire") (.element "Water") (.var "extinguished")]

/-- The statements of the mod. -/
def declarations : Declarations :=
  [.title "Default Mod", .tag (.element "Empty") "(all)"] ++ solids ++ dusts ++ liquids ++ fire ++
    flammables ++ oil ++ plants ++ sources ++ gasses ++ [extinguishing]

end StandardMod

end FallingSand
