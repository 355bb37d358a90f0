import MapMetrics.Text.Parts

/-!
# Files and paths

A path is a text in which names are separated by slashes. It is shown in a plain form, without
empty names and names for the present directory. What stands at a path is looked up name by name
in a set of entries, so that a step back up needs the directory that it leaves.
-/

namespace MapMetrics

/-- What stands at a path. -/
inductive FileEntry where
  /-- Nothing. -/
  | absent
  /-- A directory. -/
  | directory
  /-- A file with its octets. -/
  | file (octets : List UInt8)
  /-- Nothing that can be looked up: the path, or a name in it, is too long. -/
  | tooLong
  deriving DecidableEq, Repr

/-- The entries that can be read, by their paths in plain form. -/
abbrev Files := String → FileEntry

namespace Path

/-- The names of a path: those between slashes, without empty ones and present directories. -/
def names (path : String) : List String :=
  ((Text.parts '/' path.toList).filter fun n => n != [] && n != ['.']).map String.ofList

/-- The slashes in front of a path: none, one, or exactly two. -/
def root (path : String) : String :=
  match path.toList.takeWhile (· == '/') with
  | [] => ""
  | ['/', '/'] => "//"
  | _ => "/"

/-- A path in plain form. -/
def plain (path : String) : String :=
  let shown := root path ++ "/".intercalate (names path)
  if shown.isEmpty then "." else shown

/-- The last name of a path. -/
def name (path : String) : String :=
  (names path).getLast?.getD ""

/-- The suffix of a path: what follows the last point of the last name, with the point, unless the
point is the first or the last character. -/
def suffix (path : String) : String :=
  let cs := (name path).toList
  let back := cs.reverse.takeWhile (· != '.')
  if back.isEmpty || cs.length ≤ back.length + 1 then ""
  else String.ofList ('.' :: back.reverse)

end Path

namespace Files

/-- A directory stands at a list of names: the present one, or one that some entry lies below. -/
def isDirectory (entries : List (List String × FileEntry)) (names : List String) : Bool :=
  names.isEmpty || entries.any fun e =>
    (e.1 == names && e.2 == .directory) || (names.length < e.1.length && names.isPrefixOf e.1)

/-- What stands at a list of names. -/
def at_ (entries : List (List String × FileEntry)) (names : List String) : FileEntry :=
  if isDirectory entries names then .directory else (entries.lookup names).getD .absent

/-- The most octets that a name may have. -/
def nameLimit : Nat := 255

/-- The most octets that a path may have. -/
def pathLimit : Nat := 4095

/-- What stands at names that start above all that is known: only directories straight above are
sure to exist. -/
def above : List String → FileEntry
  | [] => .directory
  | name :: rest =>
    if name == ".." then above rest
    else if nameLimit < name.utf8ByteSize then .tooLong
    else .absent

/-- Goes from a directory along some names. A `rooted` directory has none above itself. -/
def walk (entries : List (List String × FileEntry)) (rooted : Bool) (here : List String) :
    List String → FileEntry
  | [] => at_ entries here
  | name :: rest =>
    if !isDirectory entries here then .absent
    else if name == ".." then
      if here.isEmpty && !rooted then above rest else walk entries rooted here.dropLast rest
    else if nameLimit < name.utf8ByteSize then .tooLong
    else walk entries rooted (here ++ [name]) rest

/-- The files given by their paths, some from the root and others from the present directory.
Nothing else can be reached; of directories outside, only those straight above exist. -/
def ofList (entries : List (String × FileEntry)) : Files := fun path =>
  let rooted := Path.root path != ""
  let found := entries.filter fun e => (Path.root e.1 != "") == rooted
  if path.toList.contains '\x00' then .absent
  else if pathLimit < path.utf8ByteSize then .tooLong
  else walk (found.map fun e => (Path.names e.1, e.2)) rooted [] (Path.names path)

end Files

end MapMetrics
