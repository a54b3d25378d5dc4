import FallingSand.Settings.Layer
import FallingSand.Simulation

/-!
# Settings of a run

What to simulate, for how long, and where to put the outcome.  A setting that no layer gives keeps
its standard value.
-/

namespace FallingSand

/-- How a snapshot is kept. -/
inductive SnapshotFormat where
  /-- As text. -/
  | text
  /-- As bytes. -/
  | bytes
  deriving DecidableEq, Repr

namespace SnapshotFormat

/-- The words for the formats. -/
def words : List (String × SnapshotFormat) :=
  [("ron", text), ("bincode", bytes)]

end SnapshotFormat

/-- The settings of a run. -/
structure RunSettings where
  /-- How to set the simulation up. -/
  setup : Setup
  /-- File of the mod; without one, the standard mod is simulated. -/
  modPath : Option String
  /-- File of the scene. -/
  scenePath : Option String
  /-- Number of ticks. -/
  ticks : Nat
  /-- Number of ticks between lines of a log, or zero for none. -/
  logEvery : Nat
  /-- File for the final snapshot. -/
  outputPath : Option String
  /-- How the final snapshot is kept. -/
  format : SnapshotFormat

namespace RunSettings

/-- The settings of a run about which nothing is said. -/
def standard : RunSettings where
  setup := Setup.standard
  modPath := none
  scenePath := none
  ticks := 100
  logEvery := 0
  outputPath := none
  format := .text

/-- The words for the kinds of edge. -/
def edgeWords : List (String × Edge) :=
  [("Wall", .wall), ("Wrap", .wrap)]

/-- The groups of settings, with the names in each. -/
def groups : List (String × List String) :=
  [("simulation", ["width", "height", "edge", "bands", "seed"]),
    ("run", ["mod_path", "scene", "ticks", "log_every"]),
    ("output", ["path", "format"])]

/-- The tree of settings below all layers. -/
def standardTree : Setting :=
  .table
    [("simulation", .table
      [("width", .integer standard.setup.width), ("height", .integer standard.setup.height),
        ("edge", .text "Wall"), ("bands", .integer standard.setup.bands),
        ("seed", .integer standard.setup.seed.toNat)]),
      ("run", .table
        [("ticks", .integer standard.ticks), ("log_every", .integer standard.logEvery)]),
      ("output", .table [("format", .text "ron")])]

/-- The environment variables that can be settings, in capital letters. -/
def variableNames : List String :=
  groups.flatMap fun (group, names) =>
    names.map fun name => (Setting.variableStart ++ group ++ "__" ++ name).toUpper

/-- The setting of a name in a group, if the group makes sense: it is a table, or a list in the
order of its names. -/
def entry? (tree : Setting) (group name : String) : Option (Option Setting) :=
  match tree.entries.lookup group with
  | none => some none
  | some (.table entries) => some (entries.lookup name)
  | some (.list items) => some ((((groups.lookup group).getD []).zip items).lookup name)
  | some _ => none

/-- Read a setting, or keep its standard value. -/
def read {α : Type} (tree : Setting) (group name : String) (decode : Setting → Option α)
    (standard : α) : Option α := do
  match ← entry? tree group name with
  | some setting => decode setting
  | none => return standard

/-- The setup that a tree describes. -/
def setupOf? (tree : Setting) : Option Setup := do
  let initial := Setup.standard
  let seed ← read tree "simulation" "seed" Setting.word? initial.seed.toNat
  return {
    width := ← read tree "simulation" "width" Setting.word? initial.width
    height := ← read tree "simulation" "height" Setting.word? initial.height
    edge := ← read tree "simulation" "edge" (Setting.choice? edgeWords) initial.edge
    bands := ← read tree "simulation" "bands" Setting.word? initial.bands
    seed := UInt64.ofNat seed }

/-- The settings that a tree describes. -/
def ofSetting? (tree : Setting) : Option RunSettings := do
  return {
    setup := ← setupOf? tree
    modPath := ← read tree "run" "mod_path" Setting.optionalText? none
    scenePath := ← read tree "run" "scene" Setting.optionalText? none
    ticks := ← read tree "run" "ticks" Setting.word? standard.ticks
    logEvery := ← read tree "run" "log_every" Setting.word? standard.logEvery
    outputPath := ← read tree "output" "path" Setting.optionalText? none
    format :=
      ← read tree "output" "format" (Setting.choice? SnapshotFormat.words) standard.format }

end RunSettings
end FallingSand
