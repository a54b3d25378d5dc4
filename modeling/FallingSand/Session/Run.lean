import FallingSand.Mod.Compile
import FallingSand.Mod.Standard
import FallingSand.Mod.Text
import FallingSand.Session.Keep

/-!
# Sessions

A session loads a mod and a scene, simulates, and keeps the final snapshot, all as its settings say.
-/

namespace FallingSand

/-- What a session has simulated. -/
structure Outcome where
  /-- Number of ticks. -/
  ticks : Nat
  /-- What happened in them. -/
  totals : Tally
  /-- The grid at the end. -/
  snapshot : Snapshot

namespace Session

variable {m : Type → Type} [Monad m] [FileStore m]

/-- The mod of a file, or the standard mod. -/
def loadMod : Option String → ExceptT Failure m Declarations
  | none => return StandardMod.declarations
  | some path => do
      match ← (FileStore.readText path : m _) with
      | none => throw (.readMod path)
      | some content =>
          match Declarations.ofText? content with
          | none => throw (.parseMod path)
          | some declarations => return declarations

/-- The rules of the mod of a file, or of the standard mod. -/
def loadRules (path : Option String) : ExceptT Failure m RuleSet := do
  match (← loadMod path).compile with
  | .error error => throw (.compileMod error)
  | .ok rules => return rules

/-- The scene of a file. -/
def loadScene (path : String) : ExceptT Failure m Scene := do
  match ← (FileStore.readText path : m _) with
  | none => throw (.readScene path)
  | some content =>
      match Scene.ofText? content with
      | none => throw (.parseScene path)
      | some scene => return scene

/-- The setup with the size that a scene asks for. -/
def fitSetup (setup : Setup) (scene : Option Scene) : Setup :=
  match scene.bind Scene.size with
  | some (width, height) => { setup with width, height }
  | none => setup

/-- The simulation before its first tick. -/
def prepare (settings : RunSettings) : ExceptT Failure m Simulation := do
  let rules ← loadRules settings.modPath
  let scene ← settings.scenePath.mapM loadScene
  match Simulation.create rules (fitSetup settings.setup scene) with
  | .error fault => throw (.createGrid fault)
  | .ok simulation =>
      match scene with
      | none => return simulation
      | some scene =>
          match scene.apply rules.elements simulation.grid with
          | (none, grid) => return { simulation with grid }
          | (some fault, _) => throw (.paintScene fault)

/-- Simulate and keep the outcome. -/
def run (settings : RunSettings) : ExceptT Failure m Outcome := do
  let simulation ← prepare settings
  let (_, simulation) := simulation.run settings.ticks
  let snapshot := simulation.grid.snapshot simulation.rules.elements
  if let some path := settings.outputPath then
    ExceptT.mk (snapshot.save path settings.format : m _)
  return { ticks := settings.ticks, totals := simulation.totals, snapshot }

/-- What the name of a file of settings may lack. -/
def settingsEnding : String := "ron"

/-- The text of a file of settings, if there is one. -/
def readSettingsFile (path : String) : m (Option String) := do
  match ← FileStore.readText path, FilePath.extend? path settingsEnding with
  | some content, _ => return some content
  | none, some path => FileStore.readText path
  | none, none => return none

/-- The settings of a file and of environment variables, the latter on top. -/
def loadSettings (path : String) (environment : List (String × String)) :
    ExceptT Failure m RunSettings := do
  let file ←
    match ← (readSettingsFile path : m _) with
    | none => pure []
    | some content =>
        match Setting.layerOfFile? content with
        | none => throw .gatherSettings
        | some layer => pure layer
  let tree := RunSettings.standardTree.addLayer file
  match RunSettings.ofSetting? (tree.addLayer (Setting.layerOfEnvironment environment)) with
  | none => throw .readSettings
  | some settings => return settings

end Session
end FallingSand
