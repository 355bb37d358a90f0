import MapMetrics.Json.Document
import MapMetrics.Text.Utf8
import MapMetrics.Validation.Problem
import MapMetrics.Yaml.Error

/-!
# Failures

What can go wrong, in three families: the cluster cannot be read, the configuration is wrong, or a
collection as a whole fails. Beside them stand the errors that come from below, of a value, a file
or a text. Only a failure of a live read that may pass by itself is worth another try.

A failure of one of the families has a message, and may have a code and a context of named values.
-/

namespace MapMetrics

/-- The families of failures that have no more to say than their message. -/
inductive Family where
  /-- Of no family in particular. -/
  | general
  /-- The cluster cannot be read. -/
  | access
  /-- The configuration is wrong. -/
  | configuration
  deriving DecidableEq, Repr

/-- Errors that come from below. -/
inductive Mishap where
  /-- A value is wrong. -/
  | value (message : String)
  /-- A value is of the wrong kind. -/
  | kind (message : String)
  /-- Something fails for reasons of its own. -/
  | runtime (message : String)
  /-- A mapping has no such key. -/
  | missingKey (name : String)
  /-- A file is no text. -/
  | undecodable (e : Text.Utf8.Error)
  /-- A directory stands where a file was expected. -/
  | directory (path : String)
  /-- A path, or a name in it, is too long to be looked up. -/
  | pathTooLong (path : String)
  /-- The nesting goes deeper than can be followed. -/
  | tooDeep (message : String)
  /-- A text is no document of the one format. -/
  | json (text : List Char) (e : Json.Error)
  /-- A text is no document of the other format. -/
  | yaml (e : Yaml.Error)
  /-- A value is no valid record. -/
  | invalid (model : String) (first : Problem) (rest : List Problem)

/-- A failure. -/
inductive Failure where
  /-- A failure with a message of its own. -/
  | plain (family : Family) (message : String) (code : Option String)
      (context : List (Value × Value))
  /-- A distributed object does not exist, or not any more. -/
  | notFound (name : String) (message : Option String)
  /-- The statistics of a map cannot be fetched. -/
  | statsUnavailable (name : String) (message : Option String) (cause : Option Failure)
  /-- The cluster cannot be asked at all. -/
  | clusterUnavailable (message : Option String) (cause : Option Failure)
  /-- A collection cannot give a complete report. -/
  | collection (message : String) (collector : Option String)
  /-- A setting has a wrong value. -/
  | invalidSetting (key : String) (value : Value) (reason : String) (message : Option String)
  /-- An error from below. -/
  | mishap (m : Mishap)

/-- The message of an error from below. -/
def Mishap.message : Mishap → String
  | value message => message
  | kind message => message
  | runtime message => message
  | missingKey name => Text.quoted name
  | undecodable e => e.message
  | directory path => "[Errno 21] Is a directory: " ++ Text.quoted path
  | pathTooLong path => "[Errno 36] File name too long: " ++ Text.quoted path
  | tooDeep message => message
  | json text e => e.message text
  | yaml e => e.message
  | invalid model first rest => Problem.heading model (first :: rest)

namespace Failure

/-- A message that is given and not empty, or else another one. -/
def given (message : Option String) (otherwise : String) : String :=
  match message with
  | none => otherwise
  | some s => if s.isEmpty then otherwise else s

private def causeSuffix : Option String → String
  | none => ""
  | some s => ": " ++ s

mutual

/-- The message of a failure. -/
def message : Failure → String
  | plain _ m _ _ => m
  | notFound name m => given m ("Distributed object '" ++ name ++ "' not found")
  | statsUnavailable name m cause =>
    given m ("Failed to fetch local statistics for map '" ++ name ++ "'" ++
      causeSuffix (causeMessage? cause))
  | clusterUnavailable m cause =>
    given m ("Cluster is unavailable" ++ causeSuffix (causeMessage? cause))
  | collection m _ => m
  | invalidSetting key v reason m =>
    given m ("Invalid configuration value for '" ++ key ++ "': " ++ v.display ++ " (" ++ reason ++
      ")")
  | mishap m => m.message

/-- The message of the cause of a failure, if there is one. -/
def causeMessage? : Option Failure → Option String
  | none => none
  | some f => some f.message

end

private def textOrNull : Option String → Value
  | none => .null
  | some s => .text s

/-- The code of a failure. -/
def code : Failure → Option String
  | plain _ _ c _ => c
  | notFound .. => some "RESOURCE_NOT_FOUND"
  | statsUnavailable .. => some "STATS_FETCH_FAILED"
  | clusterUnavailable .. => some "CLUSTER_UNAVAILABLE"
  | collection .. => some "METRICS_COLLECTION_FAILED"
  | invalidSetting .. => some "INVALID_CONFIGURATION"
  | mishap _ => none

/-- The context of a failure. -/
def context : Failure → List (Value × Value)
  | plain _ _ _ c => c
  | notFound name _ => [(.text "name", .text name)]
  | statsUnavailable name _ cause =>
    [(.text "name", .text name), (.text "cause", textOrNull (causeMessage? cause))]
  | clusterUnavailable _ cause => [(.text "cause", textOrNull (causeMessage? cause))]
  | collection _ none => []
  | collection _ (some c) => if c.isEmpty then [] else [(.text "collector", .text c)]
  | invalidSetting key v reason _ =>
    [(.text "config_key", .text key), (.text "value", .text v.display),
     (.text "reason", .text reason)]
  | mishap _ => []

/-- A failure of one of the families, and not an error from below. -/
def isOwn : Failure → Bool
  | mishap _ => false
  | _ => true

/-- The cluster cannot be read. -/
def isAccess : Failure → Bool
  | plain .access _ _ _ => true
  | notFound .. => true
  | statsUnavailable .. => true
  | clusterUnavailable .. => true
  | _ => false

/-- The configuration is wrong. -/
def isConfiguration : Failure → Bool
  | plain .configuration _ _ _ => true
  | invalidSetting .. => true
  | _ => false

/-- The failure concerns one map only, so that a collection can do without it. -/
def isIsolable : Failure → Bool
  | notFound .. => true
  | statsUnavailable .. => true
  | _ => false

/-- The failure may pass by itself. -/
def isRetriable : Failure → Bool
  | statsUnavailable .. => true
  | clusterUnavailable .. => true
  | _ => false

/-- The message with the context behind it. -/
def formatted (f : Failure) : String :=
  if f.context.isEmpty then f.message
  else
    let parts := f.context.map fun e => e.1.display ++ "=" ++ e.2.display
    f.message ++ " [" ++ ", ".intercalate parts ++ "]"

/-- The configuration is wrong, in a way that has no more to say than its message. -/
def misconfigured (message : String) : Failure :=
  plain .configuration message none []

/-- What is reported when a failure comes up. -/
def events (f : Failure) : List Event :=
  if f.isOwn then [⟨.debug, "GridPulseError: " ++ f.message⟩] else []

end Failure

/-- A failure as it leaves an operation, with the one that brought it about. -/
structure Raised where
  /-- The failure. -/
  failure : Failure
  /-- What brought it about. -/
  cause : Option Failure := none

/-- An error from below that leaves an operation. -/
def Raised.ofMishap (m : Mishap) : Raised :=
  ⟨.mishap m, none⟩

end MapMetrics
