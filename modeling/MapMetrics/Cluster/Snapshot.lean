import MapMetrics.Cluster.Basic
import MapMetrics.DocumentFile
import MapMetrics.Journal

/-!
# Snapshots of clusters

A snapshot is a document with two sections: maps, each with a configuration and possibly counters,
and other objects. What is written is taken as it is meant only where that is plain: the first part
that does not fit makes the whole snapshot malformed, with what does not fit as the cause. Parts
that are there but not filled count as absent.
-/

namespace MapMetrics.Snapshot

/-- The elements of a value: the items of a list, the keys of a set or mapping, the characters of a
text, the numbers of octets. -/
def elements (v : Value) : Except Mishap (List Value) :=
  match v.opened with
  | .list items => .ok items
  | .pair first second => .ok [first, second]
  | .set keys => .ok keys
  | .mapping entries => .ok (entries.map (·.1))
  | .text s => .ok (s.toList.map fun c => .text (String.singleton c))
  | .bytes octets => .ok (octets.map fun b => .int b.toNat)
  | _ => .error (.kind ("'" ++ v.typeName ++ "' object is not iterable"))

/-- The part of a value that has a name. -/
def part (name : String) (v : Value) : Except Mishap Value :=
  match v.opened with
  | .mapping entries =>
    match Value.field? name entries with
    | some v => .ok v
    | none => .error (.missingKey name)
  | .text _ => .error (.kind "string indices must be integers, not 'str'")
  | .bytes _ => .error (.kind "byte indices must be integers or slices, not str")
  | .list _ => .error (.kind "list indices must be integers or slices, not str")
  | .pair _ _ => .error (.kind "tuple indices must be integers or slices, not str")
  | _ => .error (.kind ("'" ++ v.typeName ++ "' object is not subscriptable"))

/-- The elements of a section, none if it is absent or not filled. -/
def sectionElements (name : String) (entries : List (Value × Value)) :
    Except Mishap (List Value) :=
  elements (((Value.field? name entries).getD .null).orElse (.list []))

/-- An error from below ends the loading: the snapshot is malformed. -/
def malformed {α : Type} (m : Mishap) : Journal α :=
  .raise (.misconfigured ("Malformed cluster snapshot: " ++ m.message)) (some (.mishap m))

/-- A step of loading, which may meet an error from below. -/
def step {α : Type} : Except Mishap α → Journal α
  | .ok a => pure a
  | .error m => malformed m

/-- A record of a snapshot. -/
def record (α : Type) [Model α] (v : Value) : Journal α :=
  match (Model.ofValue v : Outcome α) with
  | .valid a => pure a
  | .invalid first rest => do
    .notes ((first :: rest).flatMap Problem.events)
    malformed (.invalid (Model.title α) first rest)

/-- The counters of an entry, which may be absent or not filled. -/
def statsPart (entry : Value) : Value :=
  match entry.opened with
  | .mapping entries => ((Value.field? "stats" entries).getD .null).orElse (.mapping [])
  | _ => .mapping []

/-- Registers the map of an entry. -/
def addMap (cluster : Cluster) (entry : Value) : Journal Cluster := do
  let config ← record MapConfig (← step (part "config" entry))
  let stats ← record MapStats (statsPart entry)
  .note .debug ("Registered map '" ++ config.name ++ "'")
  return cluster.addMap config stats

/-- Registers the object of an entry. -/
def addObject (cluster : Cluster) (entry : Value) : Journal Cluster := do
  let name ← step (part "name" entry)
  let service ← step (part "service_name" entry)
  let added ← step (cluster.addObject name service)
  .note .debug ("Registered object '" ++ name.display ++ "' for service '" ++ service.display ++
    "'")
  return added

/-- The cluster that a document describes. -/
def toCluster (document : Value) (mapService : String) : Journal Cluster :=
  match document.opened with
  | .mapping entries => do
    .note .debug "Initialized InMemoryCluster"
    let maps ← step (sectionElements "maps" entries)
    let withMaps ← maps.foldlM addMap { mapService := mapService }
    let objects ← step (sectionElements "objects" entries)
    let cluster ← objects.foldlM addObject withMaps
    .note .info ("Loaded cluster snapshot with " ++ toString cluster.objects.length ++ " objects")
    return cluster
  | _ => .raise (.misconfigured "Cluster snapshot must be a mapping") none

/-- The document at a path. A file that is no text is as bad as one that is no document. -/
def readFile [Library] (files : Files) (path : String) : Journal Value :=
  match readDocument files path with
  | .error .absent => .raise (.misconfigured ("Snapshot file not found: " ++ path)) none
  | .error (.unsupported suffix) =>
    .raise (.misconfigured ("Unsupported snapshot format: " ++ suffix)) none
  | .error (.unreadable m) =>
    let isParsing := match m with
      | .undecodable _ => true
      | m => m.isSyntax
    if isParsing then
      .raise (.misconfigured ("Failed to parse snapshot file: " ++ m.message)) (some (.mishap m))
    else .throw (.ofMishap m)
  | .ok document => do
    .note .debug ("Loaded snapshot from " ++ path)
    return document

/-- Loads the cluster of a snapshot file. A document that is not filled is an empty snapshot. -/
def load [Library] (files : Files) (path : String) (mapService : String) : Journal Cluster := do
  let document ← readFile files (Path.plain path)
  toCluster (document.orElse (.mapping [])) mapService

end MapMetrics.Snapshot
