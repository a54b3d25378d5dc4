import FallingSand.Listing
import FallingSand.Session.Run

/-!
# The command line

Options choose the settings of a run and win over every other source of settings.  An option is
given at most once, with its value as the next argument or after an equals sign.
-/

namespace FallingSand

/-- What the command line asks for. -/
structure CommandLine where
  /-- File of the mod. -/
  modPath : Option String
  /-- File of the scene. -/
  scenePath : Option String
  /-- Number of ticks. -/
  ticks : Option Nat
  /-- Seed of all randomness. -/
  seed : Option UInt64
  /-- The number of bands wished for. -/
  bands : Option Nat
  /-- File for the final snapshot. -/
  outputPath : Option String
  /-- How the final snapshot is kept. -/
  format : Option SnapshotFormat
  /-- File of settings. -/
  settingsPath : Option String
  /-- Whether to list the elements and do nothing else. -/
  listElements : Bool

namespace CommandLine

/-! ## Reading arguments -/

/-- The names of the options that take a value. -/
def valueOptions : List String :=
  ["mod", "scene", "ticks", "seed", "bands", "output", "format", "config"]

/-- The name of the option that takes no value. -/
def listOption : String := "list-elements"

/-- Options with their values, in order; the option without a value has an empty one. -/
abbrev Assignments := List (String × String)

/-- Whether an argument can be the value of the option before it. -/
def isValue (argument : String) : Bool :=
  !argument.startsWith "-" || argument == "-"

/-- Split an option off an argument: its name, and its value after an equals sign. -/
def splitOption? (argument : String) : Option (String × Option String) :=
  match argument.toList with
  | '-' :: '-' :: rest =>
      let name := String.ofList (rest.takeWhile (· != '='))
      match rest.dropWhile (· != '=') with
      | [] => some (name, none)
      | _ :: value => some (name, some (String.ofList value))
  | _ => none

/-- The options and values among arguments; everything has to belong to an option. -/
def assignments? : List String → Option Assignments
  | [] => some []
  | ["--"] => some []
  | argument :: rest =>
      match splitOption? argument with
      | none => none
      | some (name, some value) =>
          if valueOptions.contains name then (assignments? rest).map ((name, value) :: ·)
          else none
      | some (name, none) =>
          if name = listOption then (assignments? rest).map ((name, "") :: ·)
          else if valueOptions.contains name then
            match rest with
            | value :: rest =>
                if isValue value then (assignments? rest).map ((name, value) :: ·) else none
            | [] => none
          else none

/-- A word of sixty-four bits in decimal digits, after an optional plus sign. -/
def word? (text : String) : Option Nat :=
  (Setting.unsigned? text).filter (· < UInt64.size)

/-- The path that a text is: any but the empty one. -/
def path? (text : String) : Option String :=
  if text.isEmpty then none else some text

/-- The value of an option, if it is given; it has to be given in the right way. -/
def option? {α : Type} (assignments : Assignments) (name : String) (read : String → Option α) :
    Option (Option α) :=
  match assignments.lookup name with
  | none => some none
  | some value => (read value).map some

/-- What arguments ask for, if they ask for something. -/
def ofArguments? (arguments : List String) : Option CommandLine := do
  let assignments ← assignments? arguments
  let names := assignments.map (·.1)
  if names.eraseDups.length < names.length then none
  else
    return {
      modPath := ← option? assignments "mod" path?
      scenePath := ← option? assignments "scene" path?
      ticks := ← option? assignments "ticks" word?
      seed := (← option? assignments "seed" word?).map UInt64.ofNat
      bands := ← option? assignments "bands" word?
      outputPath := ← option? assignments "output" path?
      format := ← option? assignments "format" (SnapshotFormat.words.lookup ·)
      settingsPath := ← option? assignments "config" path?
      listElements := names.contains listOption }

/-! ## Acting on them -/

/-- The settings of a run, with those of the command line on top. -/
def applyTo (line : CommandLine) (settings : RunSettings) : RunSettings where
  setup :=
    { settings.setup with
      seed := line.seed.getD settings.setup.seed
      bands := line.bands.getD settings.setup.bands }
  modPath := line.modPath <|> settings.modPath
  scenePath := line.scenePath <|> settings.scenePath
  ticks := line.ticks.getD settings.ticks
  logEvery := settings.logEvery
  outputPath := line.outputPath <|> settings.outputPath
  format := line.format.getD settings.format

/-- The file of settings that is looked up when no other is given. -/
def standardSettingsPath : String := "sandmod.ron"

variable {m : Type → Type} [Monad m] [FileStore m]

/-- Do what the command line asks for; gives the lines to print. -/
def perform (line : CommandLine) (environment : List (String × String)) :
    ExceptT Failure m (List String) := do
  let settings ←
    Session.loadSettings (line.settingsPath.getD standardSettingsPath) environment
  if line.listElements then
    let rules ← Session.loadRules (line.modPath <|> settings.modPath)
    return rules.elements.listing
  else
    let _ ← Session.run (line.applyTo settings)
    return []

end CommandLine

/-- How the program ends. -/
inductive Ending where
  /-- It has done what was asked for, and prints lines. -/
  | done (lines : List String)
  /-- It has failed. -/
  | failed (failure : Failure)
  /-- Its arguments make no sense. -/
  | misused

namespace Ending

/-- The status that the program exits with. -/
def status : Ending → Nat
  | done _ => 0
  | failed _ => 1
  | misused => 2

end Ending

/-- The whole program. -/
def program {m : Type → Type} [Monad m] [FileStore m] (environment : List (String × String))
    (arguments : List String) : m Ending := do
  match CommandLine.ofArguments? arguments with
  | none => return .misused
  | some line =>
      match ← (line.perform environment : ExceptT Failure m _).run with
      | .ok lines => return .done lines
      | .error failure => return .failed failure

end FallingSand
