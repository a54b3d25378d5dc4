import FallingSand.CommandLine

/-!
# The program

Connects the command line with files, environment variables and the console.
-/

namespace FallingSand

/-- The value of a computation, unless it fails. -/
def succeeding? {α : Type} (action : IO α) : IO (Option α) := do
  try return some (← action)
  catch _ => return none

/-- Files are those of the file system. -/
instance : FileStore IO where
  read path := succeeding? (IO.FS.readBinFile path)
  write path bytes := return (← succeeding? (IO.FS.writeBinFile path bytes)).isSome
  rename source target := return (← succeeding? (IO.FS.rename source target)).isSome

/-- The environment variables that can be settings, as far as they are set. -/
def environment : IO (List (String × String)) :=
  RunSettings.variableNames.filterMapM fun name => do
    return (← IO.getEnv name).map fun value => (name, value)

/-- Report how the program ends. -/
def Ending.report : Ending → IO Unit
  | .done lines => lines.forM IO.println
  | .failed failure => IO.eprintln ("Error: " ++ failure.report)
  | .misused => IO.eprintln "Error: the arguments make no sense"

end FallingSand

/-- Run the program with the arguments of its command line; the result is its exit status. -/
def main (arguments : List String) : IO UInt32 := do
  let ending : FallingSand.Ending ← FallingSand.program (← FallingSand.environment) arguments
  ending.report
  return UInt32.ofNat ending.status
