/-!
# White space and comments of RON

Between tokens there may be white space, comments to the end of the line, and block comments, which
nest.  What follows them is always a rest of the text.
-/

namespace FallingSand
namespace Ron

/-- White space between tokens. -/
def isBlank (character : Char) : Bool :=
  let code := character.toNat
  (9 ≤ code && code ≤ 13) || code == 0x20 || code == 0x85 || code == 0x200e || code == 0x200f ||
    code == 0x2028 || code == 0x2029

/-- What a reader between two tokens is in. -/
inductive Gap where
  /-- White space. -/
  | blank
  /-- A comment to the end of the line. -/
  | line
  /-- A block comment inside as many others. -/
  | block (outer : Nat)
  deriving DecidableEq, Repr

/-- What follows white space and comments.  A lone slash and a block comment without end are
errors. -/
def skipFrom? : Gap → List Char → Option (List Char)
  | .blank, '/' :: '/' :: rest => skipFrom? .line rest
  | .blank, '/' :: '*' :: rest => skipFrom? (.block 0) rest
  | .blank, character :: rest =>
      if isBlank character then skipFrom? .blank rest
      else if character = '/' then none
      else some (character :: rest)
  | .line, character :: rest => skipFrom? (if character = '\n' then .blank else .line) rest
  | .block outer, '/' :: '*' :: rest => skipFrom? (.block (outer + 1)) rest
  | .block 0, '*' :: '/' :: rest => skipFrom? .blank rest
  | .block (outer + 1), '*' :: '/' :: rest => skipFrom? (.block outer) rest
  | .block outer, _ :: rest => skipFrom? (.block outer) rest
  | .block _, [] => none
  | _, [] => some []

/-- What follows the white space and the comments at the start of a text. -/
def skipBlanks? (text : List Char) : Option (List Char) :=
  skipFrom? .blank text

end Ron
end FallingSand
