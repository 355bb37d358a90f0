import MapMetrics.Failure
import MapMetrics.Files
import MapMetrics.Text.Case
import MapMetrics.Yaml.Document

/-!
# Documents in files

A file holds a document in the format that the suffix of its path names. The one format is decoded
while it is read and the other as a whole, which shows in where and whether a file that is no text
is said to fail. Line ends are unified before a document is read.

Reading documents and showing values are left to libraries, which have limits of their own. So what
loads a document is written over any libraries, and the program runs with the standard ones.
-/

namespace MapMetrics

/-- The formats of documents. -/
inductive DocumentFormat where
  /-- JSON. -/
  | json
  /-- YAML. -/
  | yaml
  deriving DecidableEq, Repr

/-- The format that the suffix of a path names, in letters of any case. -/
def DocumentFormat.ofPath? (path : String) : Option DocumentFormat := do
  let suffix ← Text.lower? (Path.suffix path).toList
  if suffix == ".yaml".toList || suffix == ".yml".toList then some .yaml
  else if suffix == ".json".toList then some .json
  else none

/-- The ways in which a path fails to give a document. -/
inductive DocumentError where
  /-- Nothing stands there. -/
  | absent
  /-- The suffix names no format. -/
  | unsupported (suffix : String)
  /-- It cannot be read. -/
  | unreadable (m : Mishap)

/-- An error of a text that is to be a document of the one format. -/
def Mishap.ofJson (text : List Char) (e : Json.Error) : Mishap :=
  match e.fault with
  | .digits _ => .value (e.message text)
  | _ => .json text e

/-- An error of a text that is to be a document of the other format. -/
def Mishap.ofYaml (e : Yaml.Error) : Mishap :=
  match e with
  | .undecodable flaw => .undecodable flaw
  | .impossible _ => .value e.message
  | .mappedTimestamp => .kind e.message
  | .endless => .tooDeep e.message
  | _ => .yaml e

/-- The document in some octets. -/
def DocumentFormat.read (format : DocumentFormat) (octets : List UInt8) : Except Mishap Value :=
  match format with
  | .json => do
    let text ← (Text.Utf8.decode octets).mapError Mishap.undecodable
    let lines := Text.unifyLineEnds text
    (Json.read lines).mapError (Mishap.ofJson lines)
  | .yaml => (Yaml.read (Yaml.Feed.ofOctets octets)).mapError Mishap.ofYaml

/-- What is left to libraries: to read documents, and to show values. Each may fail in a way and at
a limit of its own. -/
class Library where
  /-- The document in some octets. -/
  read (format : DocumentFormat) (octets : List UInt8) : Except Mishap Value
  /-- What showing a value fails with, if it does. -/
  unshown? (v : Value) : Option Mishap

/-- The libraries that the program runs with. They follow values of any depth, and show an integer
unless it has too many digits. -/
instance Library.standard : Library where
  read := DocumentFormat.read
  unshown? v := if v.isWritable then none else some (.value (Number.tooManyDigits none))

/-- The document at a path. Directories are refused before the suffix is looked at. -/
def readDocument [Library] (files : Files) (path : String) : Except DocumentError Value :=
  match files path with
  | .absent => .error .absent
  | .directory => .error (.unreadable (.directory path))
  | .tooLong => .error (.unreadable (.pathTooLong path))
  | .file octets =>
    match DocumentFormat.ofPath? path with
    | none => .error (.unsupported (Path.suffix path))
    | some format => (Library.read format octets).mapError .unreadable

/-- The text of a file is no document; other errors of a file are not about its text. -/
def Mishap.isSyntax : Mishap → Bool
  | .json .. => true
  | .yaml (.unreadable ..) => true
  | _ => false

end MapMetrics
