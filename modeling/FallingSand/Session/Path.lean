/-!
# Paths of files

A path names a file by its last name, before which folders may stand.  Slashes and lone points at
the end of a path name nothing.  The ending of a name is what follows its last point, unless that
point begins the name.
-/

namespace FallingSand
namespace FilePath

/-- A path read backwards, without the slashes and lone points at its end that name nothing. -/
def trimBackwards : List Char → List Char
  | '/' :: rest => trimBackwards rest
  | '.' :: '/' :: rest => trimBackwards rest
  | rest => rest

/-- The last name of a path and what stands before it.  Neither a lone point nor the word for the
folder above is a name. -/
def splitName? (path : String) : Option (String × String) :=
  let backwards := trimBackwards path.toList.reverse
  let folder := String.ofList (backwards.dropWhile (· != '/')).reverse
  let name := String.ofList (backwards.takeWhile (· != '/')).reverse
  if name = "" ∨ name = "." ∨ name = ".." then none else some (folder, name)

/-- The name without its ending. -/
def stem (name : String) : String :=
  match (name.toList.reverse.dropWhile (· != '.')).drop 1 with
  | [] => name
  | stem => String.ofList stem.reverse

/-- Number of characters of the ending of a name. -/
def endingLength (name : String) : Nat :=
  name.length - (stem name).length - 1

/-- Whether a name has an ending, which may be empty. -/
def hasEnding (name : String) : Bool :=
  stem name != name

/-- The path with another ending of its last name, or with the first one, if it has a last name. -/
def withEnding? (path ending : String) : Option String :=
  (splitName? path).map fun (folder, name) => folder ++ stem name ++ "." ++ ending

/-- An ending that another one takes the place of. -/
def placeholder : String := ".dummy"

/-- The path with one more ending of its last name, if it has a last name.  A second ending is
written behind the whole path, after what names nothing at its end. -/
def extend? (path ending : String) : Option String :=
  (splitName? path).bind fun (_, name) =>
    withEnding? (if hasEnding name then path ++ placeholder else path) ending

/-- The path of the file that is written before the one that a path names.  As many characters as
the ending has are cut off the path, and then the last name that is left gets an ending of its
own. -/
def temporary (path : String) : String :=
  let ending := ((splitName? path).map fun (_, name) => endingLength name).getD 0
  let cut := (path.dropEnd ending).toString
  (withEnding? cut "tmp").getD cut

/-- Number of bytes that a name takes at most. -/
def maxNameBytes : Nat := 255

/-- Number of bytes that a path takes at most. -/
def maxPathBytes : Nat := 4095

/-- Whether a path can be looked for at all. -/
def isUsable (path : String) : Bool :=
  !path.contains '\x00' && path.utf8ByteSize ≤ maxPathBytes &&
    (path.splitOn "/").all fun name => name.utf8ByteSize ≤ maxNameBytes

end FilePath
end FallingSand
