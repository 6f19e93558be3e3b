import Std.Time.DateTime.Timestamp
import SqlFormula.CommandLine

/-!
# The program

Finds out what a call depends on, and shows the answer.
-/

namespace SqlFormula.CommandLine

/-- The text of a file, if it can be read. -/
def readFile? (path : String) : IO (Option String) := do
  try
    return some (← IO.FS.readFile path)
  catch _ =>
    return none

/-- The variables of the environment with the given names. -/
def readVariables (names : List String) : IO Environment := do
  let mut entries := []
  for name in names do
    if let some text ← IO.getEnv name then
      entries := entries ++ [(name, text)]
  return ⟨entries⟩

/-- The present instant. -/
def readClock : IO Instant := do
  let since := (← Std.Time.Timestamp.now).toNanosecondsSinceUnixEpoch.val
  return (Instant.of? (since / 1000000000) (since % 1000000000).toNat).getD .epoch

/-- What a call finds where a directory holds its settings. -/
def readSetting (dir : String) : IO Setting := do
  let document ← readFile? (dir ++ "/" ++ settingsFile)
  let assignments ← readFile? (dir ++ "/" ++ variablesFile)
  let environment ← readVariables (Configuration.variableNames ++ (assignments.map Environment.namesIn).getD [])
  return { document, assignments, environment, now := ← readClock }

end SqlFormula.CommandLine

open SqlFormula CommandLine in
/-- Carries out the arguments. -/
def main (arguments : List String) : IO UInt32 := do
  let a ← match readArguments arguments with
    | .ok i => do pure (i.answer (← readSetting i.configDir))
    | .error refusal => pure (Answer.ofRefusal refusal)
  (← IO.getStdout).putStr a.stdout
  (← IO.getStderr).putStr a.stderr
  return a.exit.toUInt32
