/-
This file runs the command on the arguments, files, environment and input of a process.
-/
import Bitemporal.CommandLine

namespace Bitemporal.CommandLine

/-- The text of a file, if it can be read. -/
def fileText (name : String) : IO (Option String) := do
  try
    return some (← IO.FS.readFile name)
  catch _ => return none

/-- The variables that settings are read from, in both spellings. -/
def settingVariables : List String :=
  ["xtdb_uri", "xtdb_timeout_seconds", "XTDB_URI", "XTDB_TIMEOUT_SECONDS"]

/-- The variables that are set, with their values. -/
def environment : IO (List (String × String)) := do
  let values ← settingVariables.mapM fun name => do
    return (← IO.getEnv name).map fun value => (name, value)
  return values.filterMap id

/-- The whole input, if it is text. -/
def inputText : IO (Option String) := do
  try
    return some (← (← IO.getStdin).readToEnd)
  catch _ => return none

/-- Only a run looks at files, variables and input. -/
def surroundings (arguments : List String) : IO Surroundings := do
  match wish arguments with
  | .run options =>
      let file ← fileText (settingsFile options).1
      let given ← environment
      let input ← inputText
      return ⟨fun _ => file, given, input⟩
  | _ => return ⟨fun _ => none, [], none⟩

/-- The process has no connection to a node, so every request goes unanswered. -/
def disconnected : Plan → Ending
  | .finished ending => ending
  | .ask _ exchange => (exchange.run .unreachable).value

end Bitemporal.CommandLine

open Bitemporal

def main (arguments : List String) : IO UInt32 := do
  let found ← CommandLine.surroundings arguments
  let ending := CommandLine.disconnected (CommandLine.plan arguments found)
  IO.print ending.output
  return ending.exitCode.toUInt32
