import FallingSand.Mod.Fault
import FallingSand.Scene

/-!
# Failures

Why a session could not do what it was asked for: what it was doing, in words, and what caused the
failure.
-/

namespace FallingSand

/-- What caused a failure. -/
inductive Cause where
  /-- A file could not be read or written. -/
  | file
  /-- A text does not follow its notation. -/
  | malformed
  /-- A fault with a wording of its own. -/
  | fault (message : String)
  deriving DecidableEq

/-- The wording of a cause. -/
def Cause.message : Cause → String
  | file => "the file could not be read or written"
  | malformed => "the text does not follow its notation"
  | fault message => message

/-- Why a session failed. -/
inductive Failure where
  /-- The file of a mod could not be read. -/
  | readMod (path : String)
  /-- The text of a mod is no mod. -/
  | parseMod (path : String)
  /-- A mod does not compile. -/
  | compileMod (error : CompileError)
  /-- The file of a scene could not be read. -/
  | readScene (path : String)
  /-- The text of a scene is no scene. -/
  | parseScene (path : String)
  /-- There is no such grid. -/
  | createGrid (fault : GridFault)
  /-- A scene could not be painted. -/
  | paintScene (fault : PaintFault)
  /-- The file of a snapshot could not be read. -/
  | readSnapshot (path : String)
  /-- The text of a snapshot is no snapshot. -/
  | parseSnapshot
  /-- The bytes of a snapshot are no snapshot. -/
  | decodeSnapshot
  /-- A snapshot could not be written. -/
  | writeSnapshot (path : String)
  /-- A snapshot could not be put into its place. -/
  | renameSnapshot (path : String)
  /-- The settings cannot be gathered. -/
  | gatherSettings
  /-- The settings have no meaning. -/
  | readSettings

namespace Failure

/-- What the session was doing. -/
def message : Failure → String
  | readMod path => "Failed to read mod file: " ++ path
  | parseMod path => "Failed to parse RON mod: " ++ path
  | compileMod _ => "Failed to compile mod"
  | readScene path => "Failed to read scene file: " ++ path
  | parseScene path => "Failed to parse RON scene: " ++ path
  | createGrid _ => "Failed to create grid"
  | paintScene fault => fault.message
  | readSnapshot path => "Failed to read snapshot file: " ++ path
  | parseSnapshot => "Failed to parse RON snapshot"
  | decodeSnapshot => "Failed to deserialize snapshot"
  | writeSnapshot path => "Failed to write snapshot file: " ++ path
  | renameSnapshot path => "Failed to rename snapshot file: " ++ path
  | gatherSettings => "Failed to build configuration"
  | readSettings => "Failed to deserialize configuration"

/-- What caused the failure, if the wording does not say it. -/
def cause? : Failure → Option Cause
  | readMod _ | readScene _ | readSnapshot _ | writeSnapshot _ | renameSnapshot _ => some .file
  | parseMod _ | parseScene _ | parseSnapshot | gatherSettings | readSettings => some .malformed
  | compileMod error => some (.fault error.message)
  | createGrid fault => some (.fault fault.message)
  | paintScene fault => fault.cause?.map .fault
  | decodeSnapshot => none

/-- The failure with its cause, as it is reported at the end of the program. -/
def report (failure : Failure) : String :=
  match failure.cause? with
  | some cause => failure.message ++ "\n\nCaused by:\n    " ++ cause.message
  | none => failure.message

end Failure
end FallingSand
