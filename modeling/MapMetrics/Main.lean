import MapMetrics.CommandLine.Basic

/-!
# The program

Reads the variables and the files that a run needs, runs it, and prints what it says: reports to
standard output, events to standard error.
-/

namespace MapMetrics.CommandLine

/-- What stands at a path. -/
def readEntry (path : String) : IO FileEntry := do
  try
    let octets ← IO.FS.readBinFile path
    return .file octets.toList
  catch
    | .inappropriateType .. => return .directory
    | _ => return .absent

/-- The variables that are set. -/
def readVariables : IO (List (String × String)) := do
  let found ← variablesRead.mapM fun name => do
    return (← IO.getEnv name).map fun value => (name, value)
  return found.filterMap id

end MapMetrics.CommandLine

open MapMetrics

/-- Runs the program on its arguments. -/
def main (args : List String) : IO UInt32 := do
  let set ← CommandLine.readVariables
  let env : Settings.Environment := fun name => set.lookup name
  let entries ← (CommandLine.pathsToRead env args).mapM fun path => do
    return (path, ← CommandLine.readEntry path)
  let done := CommandLine.run (fun path => (entries.lookup path).getD .absent) env args
  for event in done.events do
    IO.eprintln event.line
  match done.ending with
  | .usage e => IO.eprintln (CommandLine.usage ++ "\n" ++ e.message)
  | .escape r => IO.eprintln r.failure.message
  | .exit _ => pure ()
  IO.print done.output
  return UInt32.ofNat done.ending.code
