import FallingSand.Element

/-!
# The listing of elements

One line for each element: its name and label in columns of ten characters, its four numbers, its
tags and its description without trailing white space.
-/

namespace FallingSand
namespace Listing

/-- The white space characters of the character database. -/
def isWhite (character : Char) : Bool :=
  let code := character.toNat
  (9 ≤ code && code ≤ 13) || code == 0x20 || code == 0x85 || code == 0xa0 || code == 0x1680 ||
    (0x2000 ≤ code && code ≤ 0x200a) || code == 0x2028 || code == 0x2029 || code == 0x202f ||
    code == 0x205f || code == 0x3000

/-- The text without the white space at its end. -/
def trimEnd (text : String) : String :=
  String.ofList (text.toList.reverse.dropWhile isWhite).reverse

/-- The text with blanks up to the width of a column. -/
def column (text : String) : String :=
  text ++ String.ofList (List.replicate (10 - text.length) ' ')

/-- The line for an element. -/
def line (element : Element) : String :=
  let numbers := " ".intercalate
    ([PropertyKey.density, .gravity, .spread, .slide].map fun key =>
      key.name ++ "=" ++ (element.properties.get key).toText)
  column element.name ++ " " ++ column element.label ++ " " ++ numbers ++ " [" ++
    ", ".intercalate element.tags ++ "] " ++ trimEnd element.description

end Listing

/-- The lines for all elements in order of identifier. -/
def ElementTable.listing (table : ElementTable) : List String :=
  table.entries.toList.map Listing.line

end FallingSand
