import MapMetrics.DocumentFile
import MapMetrics.Journal
import MapMetrics.Settings.Basic

/-!
# Loading settings

Settings come from a section of a file and from variables of the environment, and a variable wins
over the file. The path of the file is given, or comes from a variable too; without a file the
defaults stand. A value that does not fit is reported by its key, its value and the reason, and of
several the first.
-/

namespace MapMetrics.Settings

variable [Library]

/-- The variables of the environment. -/
abbrev Environment := String → Option String

/-- The variable that overrides a field. -/
def variableOf (field : String) : String :=
  "GRIDPULSE_" ++ field.toUpper

/-- The variable that gives the path of the file. -/
def pathVariable : String := "GRIDPULSE_CONFIG_PATH"

/-- The path of the file to read: the one that is given, unless it is empty, or else that of the
environment, unless it is empty. -/
def chosenPath (env : Environment) (path : Option String) : Option String :=
  ((path.filter (· != "")).or (env pathVariable)).filter (· != "")

/-- The fields that the environment overrides, in the order of the fields. -/
def overrides (env : Environment) : List (Value × Value) :=
  fieldNames.filterMap fun field =>
    (env (variableOf field)).map fun s => (.text field, .text s)

/-- The section of a document that holds the settings. Without a document it is empty. -/
def sectionOf (path : String) (document : Value) : Except Failure (List (Value × Value)) :=
  match document.opened with
  | .null => .ok []
  | .mapping entries =>
    match (Value.field? "collector" entries).map Value.opened with
    | none => .ok []
    | some (.mapping section_) => .ok section_
    | some _ => .error (.misconfigured ("'collector' section in " ++ path ++ " must be a mapping"))
  | _ => .error (.misconfigured ("Invalid configuration format in " ++ path))

/-- The section of the file at a path. -/
def readSection (files : Files) (path : String) : Journal (List (Value × Value)) :=
  match readDocument files path with
  | .error .absent =>
    .raise (.misconfigured ("Configuration file not found: " ++ path)) none
  | .error (.unsupported suffix) =>
    .raise (.misconfigured ("Unsupported configuration format: " ++ suffix)) none
  | .error (.unreadable m) =>
    if m.isSyntax then
      .raise (.misconfigured ("Failed to parse configuration file: " ++ m.message))
        (some (.mishap m))
    else .throw (.ofMishap m)
  | .ok document =>
    match sectionOf path document with
    | .error f => .raise f none
    | .ok section_ => do
      .note .debug ("Loaded configuration from " ++ path)
      return section_

/-- The failure that a problem of the settings is. -/
def invalid (p : Problem) : Failure :=
  let key := ".".intercalate (p.path.map Step.display)
  .invalidSetting (if key.isEmpty then "collector" else key) p.input p.complaint.message none

/-- What a problem of the settings, with its others, is raised as. If its value cannot be shown,
that is raised instead. -/
def raised (first : Problem) (rest : List Problem) : Raised :=
  match Library.unshown? first.input with
  | none => ⟨invalid first, some (.mishap (.invalid (Model.title Settings) first rest))⟩
  | some m => .ofMishap m

/-- The settings that a section and the environment give together. -/
def resolve (env : Environment) (section_ : List (Value × Value)) : Except Raised Settings :=
  let values := (overrides env).foldl (fun made e => Value.insert e.1 e.2 made) section_
  match (Model.ofValue (.mapping values) : Outcome Settings) with
  | .valid s => .ok s
  | .invalid first rest => .error (raised first rest)

/-- Loads settings. -/
def load (files : Files) (env : Environment) (path : Option String) : Journal Settings := do
  let section_ ← match chosenPath env path with
    | some p => readSection files (Path.plain p)
    | none => do
      .note .debug "No configuration file specified, using defaults"
      pure []
  match resolve env section_ with
  | .ok s => do
    .note .debug ("Collector settings resolved: " ++ s.literal)
    return s
  | .error r => .raise r.failure r.cause

end MapMetrics.Settings
