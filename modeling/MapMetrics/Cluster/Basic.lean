import MapMetrics.Failure
import MapMetrics.Map.Stats
import MapMetrics.Table

/-!
# A cluster held in memory

What a cluster knows: the distributed objects with their services, the configurations and the
counters of its maps, and the failures that reads of it are made to meet. A map is an object of the
map service that has a configuration and counters under its name. Objects may be listed under any
value that can be a key, and only enumeration asks whether they are named by texts.
-/

namespace MapMetrics

/-- A cluster held in memory. -/
structure Cluster where
  /-- The service of maps. -/
  mapService : String := defaultMapService
  /-- The objects with their services, in the order in which they came. -/
  objects : List (Value × Value) := []
  /-- The configurations of maps. -/
  configs : Table MapConfig := []
  /-- The counters of maps. -/
  stats : Table MapStats := []
  /-- The failures that reads of counters meet. -/
  statsFailures : Table Failure := []
  /-- The failure that enumeration meets. -/
  enumerationFailure : Option Failure := none

namespace Cluster

/-- Registers a map, in place of any other of its name. Its counters can be read again. -/
def addMap (config : MapConfig) (stats : MapStats) (c : Cluster) : Cluster :=
  { c with
    objects := Value.insert (.text config.name) (.text c.mapService) c.objects
    configs := c.configs.put config.name config
    stats := c.stats.put config.name stats
    statsFailures := c.statsFailures.erase config.name }

/-- Registers an object that is only enumerated. -/
def addObject (name service : Value) (c : Cluster) : Except Mishap Cluster :=
  if name.isKey then .ok { c with objects := Value.insert name service c.objects }
  else .error (.kind ("unhashable type: '" ++ name.typeName ++ "'"))

/-- Removes what there is under a name. -/
def remove (name : String) (c : Cluster) : Cluster :=
  { c with
    objects := c.objects.filter fun e => !e.1.sameKey (.text name)
    configs := c.configs.erase name
    stats := c.stats.erase name
    statsFailures := c.statsFailures.erase name }

/-- Drops the configuration of a map, which is enumerated all the same. -/
def forgetConfig (name : String) (c : Cluster) : Cluster :=
  { c with configs := c.configs.erase name }

/-- Replaces the counters of a map that has a configuration. -/
def updateStats (name : String) (stats : MapStats) (c : Cluster) : Except Failure Cluster :=
  if (c.configs.get? name).isNone then .error (.notFound name none)
  else .ok { c with stats := c.stats.put name stats }

/-- The failure of reads that are made to fail without saying how. -/
def injectedFailure (name : String) : Failure :=
  .statsUnavailable name (some "Injected statistics failure") none

/-- Lets every read of the counters of a map fail. -/
def failStats (name : String) (failure : Option Failure) (c : Cluster) : Cluster :=
  { c with statsFailures := c.statsFailures.put name (failure.getD (injectedFailure name)) }

/-- Lets enumeration fail, or succeed again. -/
def failEnumeration (failure : Option Failure) (c : Cluster) : Cluster :=
  { c with enumerationFailure := failure }

/-- The identity of a listed object, whose name and service must be texts. -/
def objectInfo (name service : Value) : Except Failure ObjectInfo :=
  match (Model.ofValue (Model.fields [("name", name), ("service_name", service)]) :
      Outcome ObjectInfo) with
  | .valid info => .ok info
  | .invalid first rest => .error (.mishap (.invalid (Model.title ObjectInfo) first rest))

/-- Enumerates the objects. -/
def distributedObjects (c : Cluster) : Except Failure (List ObjectInfo) :=
  match c.enumerationFailure with
  | some failure => .error failure
  | none => c.objects.mapM fun e => objectInfo e.1 e.2

/-- The object is listed. -/
def lists (name : String) (c : Cluster) : Bool :=
  (Value.field? name c.objects).isSome

/-- The configuration of a listed object, if it has one. -/
def mapConfig (name : String) (c : Cluster) : Except Failure (Option MapConfig) :=
  if c.lists name then .ok (c.configs.get? name) else .error (.notFound name none)

/-- The counters of a map. -/
def mapStats (name : String) (c : Cluster) : Except Failure MapStats :=
  match c.statsFailures.get? name with
  | some failure => .error failure
  | none =>
    match c.stats.get? name with
    | some stats => .ok stats
    | none =>
      .error (.statsUnavailable name (some ("Map '" ++ name ++ "' has no local statistics")) none)

end Cluster

end MapMetrics
