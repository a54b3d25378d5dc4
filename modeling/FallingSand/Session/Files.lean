import FallingSand.Session.Path

/-!
# Files

What a session asks of its surroundings: to read a file, to write one, and to rename one.  A
directory held in memory is one way to answer.
-/

namespace FallingSand

/-- Computations that can read, write and rename files. -/
class FileStore (m : Type → Type) where
  /-- The bytes of a file, if it can be read. -/
  read : String → m (Option ByteArray)
  /-- Replace or create a file; tells whether that succeeded. -/
  write : String → ByteArray → m Bool
  /-- Give a file another name, under which it replaces any other; tells whether that succeeded. -/
  rename : String → String → m Bool

namespace FileStore

/-- The text of a file, if it can be read and is text. -/
def readText {m : Type → Type} [Monad m] [FileStore m] (path : String) : m (Option String) := do
  return (← read path).bind String.fromUTF8?

end FileStore

/-- A directory held in memory: files by their paths below it. -/
structure Directory where
  /-- The files. -/
  files : List (String × ByteArray)

namespace Directory

/-- Whether names lead to the directory or to one below it.  Those below it are there for the sake
of their files. -/
def hasFolder (directory : Directory) (names : List String) : Bool :=
  names.isEmpty || directory.files.any fun file =>
    let path := file.1.splitOn "/"
    names.isPrefixOf path && names.length < path.length

/-- Follow the parts of a path from the folder that has been reached. -/
def follow? (directory : Directory) : (parts reached : List String) → Option (List String)
  | [], reached => some reached
  | part :: parts, reached =>
      if !directory.hasFolder reached then none
      else if part = "" ∨ part = "." then directory.follow? parts reached
      else if part = ".." then
        if reached.isEmpty then none else directory.follow? parts reached.dropLast
      else directory.follow? parts (reached ++ [part])

/-- The name under which a path finds a file, or would find a new one; a folder has none. -/
def fileName? (directory : Directory) (path : String) : Option String :=
  if path.startsWith "/" || !FilePath.isUsable path then none
  else
    match directory.follow? (path.splitOn "/") [] with
    | some names => if directory.hasFolder names then none else some ("/".intercalate names)
    | none => none

/-- The bytes of a file. -/
def find? (directory : Directory) (path : String) : Option ByteArray :=
  (directory.fileName? path).bind fun name => directory.files.lookup name

/-- The directory without a file. -/
def erase (directory : Directory) (name : String) : Directory where
  files := directory.files.filter fun file => file.1 != name

/-- Replace or create a file. -/
def put (directory : Directory) (name : String) (bytes : ByteArray) : Directory where
  files := (directory.erase name).files ++ [(name, bytes)]

instance : FileStore (StateM Directory) where
  read path := do return (← get).find? path
  write path bytes := do
    let directory ← get
    match directory.fileName? path with
    | some name =>
        set (directory.put name bytes)
        return true
    | none => return false
  rename source target := do
    let directory ← get
    match directory.fileName? source, directory.find? source, directory.fileName? target with
    | some old, some bytes, some new =>
        set ((directory.erase old).put new bytes)
        return true
    | _, _, _ => return false

end Directory
end FallingSand
