import MapMetrics.Cluster.Snapshot
import MapMetrics.Cluster.View
import MapMetrics.CommandLine.Arguments
import MapMetrics.CommandLine.Layout
import MapMetrics.Settings.Load

/-!
# The command line

The command line runs one collection cycle over the cluster of a snapshot file and prints the
report. Settings are loaded before the words of the command are looked at, and each stage takes
place only when those before it have succeeded: settings, snapshot, cycle, report. A failure of the
program's own families is reported and ends the run with the code 1, as does any other error, which
escapes; arguments that are refused end it with the code 2.
-/

namespace MapMetrics.CommandLine

/-- The version of the program. -/
def versionText : String := "gridpulse 0.1.0"

/-- How the program is used. -/
def usage : String :=
  "Usage: gridpulse [--verbose] [--config PATH] collect [--json] [--compact] SNAPSHOT"

/-- The options in front of the command. -/
inductive MainOption where
  /-- Reports events of all levels. -/
  | verbose
  /-- Gives the path of the settings. -/
  | config
  /-- Prints the version. -/
  | version
  /-- Prints how the program is used. -/
  | help
  deriving DecidableEq, Repr

/-- The options of the command. -/
inductive CollectOption where
  /-- Prints the report as an object. -/
  | json
  /-- Uses abbreviated keys. -/
  | compact
  /-- Prints how the program is used. -/
  | help
  deriving DecidableEq, Repr

/-- The arguments in front of the command. -/
def mainSpec : CommandSpec MainOption where
  options := [
    { id := .verbose, long := "verbose", letter := some 'v' },
    { id := .config, long := "config", letter := some 'c', takesValue := true },
    { id := .version, long := "version" },
    { id := .help, long := "help", letter := some 'h' }]
  interspersed := false

/-- The arguments of the command. -/
def collectSpec : CommandSpec CollectOption where
  options := [
    { id := .json, long := "json" },
    { id := .compact, long := "compact" },
    { id := .help, long := "help", letter := some 'h' }]
  interspersed := true

/-- What is asked for in front of the command. -/
inductive MainRequest where
  /-- A text is printed, and that is all. -/
  | print (text : String)
  /-- A command runs. -/
  | run (verbose : Bool) (config : Option String) (arguments : List String)
  deriving DecidableEq, Repr

/-- What is asked for in front of the command. The first option that only prints wins. -/
def readMain (args : List String) : Except UsageError MainRequest := do
  let a ← Arguments.read mainSpec args
  match a.options.find? fun o => o.1 == .version || o.1 == .help with
  | some (.version, _) => return .print versionText
  | some _ => return .print usage
  | none =>
    match a.words with
    | [] => throw .commandMissing
    | name :: rest =>
      if name == "collect" then
        let config := a.options.foldl (fun c o => if o.1 == .config then o.2 else c) none
        return .run (a.options.any fun o => o.1 == .verbose) config rest
      else throw (.noSuchCommand name)

/-- What is asked of the command. -/
inductive CollectRequest where
  /-- A text is printed, and that is all. -/
  | print (text : String)
  /-- The report of a snapshot is printed. -/
  | collect (snapshot : String) (json compact : Bool)
  deriving DecidableEq, Repr

/-- What is asked of the command. -/
def readCollect (args : List String) : Except UsageError CollectRequest := do
  let a ← Arguments.read collectSpec args
  if a.options.any fun o => o.1 == .help then return .print usage
  match a.words with
  | [] => throw (.wordMissing "SNAPSHOT")
  | [snapshot] =>
    return .collect snapshot (a.options.any fun o => o.1 == .json)
      (a.options.any fun o => o.1 == .compact)
  | _ :: extra :: _ => throw (.wordUnexpected extra)

/-- How a run ends. -/
inductive Ending where
  /-- The arguments are refused. -/
  | usage (e : UsageError)
  /-- It ends with a code. -/
  | exit (code : Nat)
  /-- An error escapes. -/
  | escape (r : Raised)

/-- The code that a run ends with. -/
def Ending.code : Ending → Nat
  | usage _ => 2
  | exit code => code
  | escape _ => 1

/-- A run of the program. -/
structure Run where
  /-- How it ends. -/
  ending : Ending
  /-- What it prints. -/
  output : String := ""
  /-- What it reports beside that. -/
  events : List Event := []

/-- A stage of a run: its result goes on to the next stage, and its failure ends the run. -/
def stage {α : Type} (title : String) (caught : Failure → Bool) (j : Journal α) (next : α → Run) :
    Run :=
  match j.result with
  | .ok a =>
    let run := next a
    { run with events := j.events ++ run.events }
  | .error r =>
    if caught r.failure then
      { ending := .exit 1,
        events := j.events ++ [⟨.error, title ++ ": " ++ r.failure.formatted⟩] }
    else { ending := .escape r, events := j.events }

/-- The report in the form that is asked for. -/
def written (json : Bool) (report : Report) : String :=
  if json then Json.writeReport report ++ "\n" else writeTable report

/-- The cluster of a snapshot, and the report of one cycle over it. -/
def collectReport (files : Files) (snapshot : String) (settings : Settings) : Journal Report := do
  let cluster ← Snapshot.load files snapshot settings.mapServiceName
  ((Report.collect settings).run Cluster.view cluster).1

/-- Runs the command. -/
def runCollect (files : Files) (args : List String) (settings : Settings) : Run :=
  match readCollect args with
  | .error e => { ending := .usage e }
  | .ok (.print text) => { ending := .exit 0, output := text ++ "\n" }
  | .ok (.collect snapshot json compact) =>
    let settings := if compact then { settings with keyStyle := .compact } else settings
    stage "Collection failed" Failure.isOwn (collectReport files snapshot settings) fun report =>
      { ending := .exit 0, output := written json report }

/-- The events that a run shows. -/
def shownEvents (verbose : Bool) (events : List Event) : List Event :=
  if verbose then events else events.filter fun e => e.level != .debug

/-- Runs the program. -/
def run (files : Files) (env : Settings.Environment) (args : List String) : Run :=
  match readMain args with
  | .error e => { ending := .usage e }
  | .ok (.print text) => { ending := .exit 0, output := text ++ "\n" }
  | .ok (.run verbose config rest) =>
    let done := stage "Configuration error" Failure.isConfiguration
      (Settings.load files env config) (runCollect files rest)
    let started : Event := ⟨.debug, "Verbose logging enabled"⟩
    { done with events := shownEvents verbose (started :: done.events) }

/-- The paths that a run reads. -/
def pathsToRead (env : Settings.Environment) (args : List String) : List String :=
  match readMain args with
  | .ok (.run _ config rest) =>
    let snapshots := match readCollect rest with
      | .ok (.collect snapshot _ _) => [snapshot]
      | _ => []
    ((Settings.chosenPath env config).toList ++ snapshots).map Path.plain
  | _ => []

/-- The variables of the environment that a run looks at. -/
def variablesRead : List String :=
  Settings.pathVariable :: Settings.fieldNames.map Settings.variableOf

end MapMetrics.CommandLine
