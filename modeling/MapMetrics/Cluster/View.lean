import MapMetrics.Cluster.Basic
import MapMetrics.Cluster.Query

/-!
# Views of a cluster

A cluster in memory answers every request from what it holds and stays as it is. Another view adds
disturbances: while a configuration is looked up, the lookup may fail in a given way, or the map may
be removed right after it was found, as if another client were at work.
-/

namespace MapMetrics

/-- What befalls the lookup of a configuration. -/
inductive Disturbance where
  /-- It fails. -/
  | fails (failure : Failure)
  /-- It succeeds, and then the map is removed. -/
  | removedAfter

/-- A cluster and the disturbances of its lookups. -/
structure DisturbedCluster where
  /-- The cluster. -/
  cluster : Cluster
  /-- What befalls the lookups of some maps. -/
  disturbances : Table Disturbance := []

/-- A cluster answers from what it holds. -/
def Cluster.view : View Cluster where
  objects c := (c.distributedObjects, c)
  config name c := (c.mapConfig name, c)
  stats name c := (c.mapStats name, c)

namespace DisturbedCluster

/-- The configuration of a listed object, with the disturbance of its lookup. -/
def mapConfig (name : String) (d : DisturbedCluster) :
    Except Failure (Option MapConfig) × DisturbedCluster :=
  match d.disturbances.get? name with
  | none => (d.cluster.mapConfig name, d)
  | some (.fails failure) => (.error failure, d)
  | some .removedAfter =>
    match d.cluster.mapConfig name with
    | .ok config => (.ok config, { d with cluster := d.cluster.remove name })
    | .error failure => (.error failure, d)

/-- A disturbed cluster answers from what it holds. -/
def view : View DisturbedCluster where
  objects d := (d.cluster.distributedObjects, d)
  config := mapConfig
  stats name d := (d.cluster.mapStats name, d)

end DisturbedCluster

end MapMetrics
