import MapMetrics.Cluster.Query

/-!
# The index of maps

The index holds the configurations of the live maps of a service, as they are found one after
another. A map that has gone by the time it is looked up, or that has no configuration, is left
out; a cluster that cannot be asked never gives an empty index.
-/

namespace MapMetrics

/-- The configuration of an object, when it still has one. -/
def liveConfig (name : String) : Query (Option MapConfig) := do
  match ← Query.lookupConfig name with
  | .ok (some config) => return some config
  | .ok none => do
    .report .debug ("Skipping map '" ++ name ++ "': no configuration")
    return none
  | .error (.notFound gone message) => do
    .report .debug
      ("Skipping map '" ++ name ++ "': " ++ (Failure.notFound gone message).message)
    return none
  | .error f => .raise ⟨f, none⟩

/-- The configurations of objects that still have one. -/
def liveConfigs : List String → Query (List MapConfig)
  | [] => .done []
  | name :: rest => do
    let found ← liveConfig name
    let others ← liveConfigs rest
    return found.toList ++ others

/-- The index of the maps of a service. -/
def configIndex (service : String) : Query (List MapConfig) := do
  let infos ← Query.allObjects
  let names := (infos.filter fun info => info.serviceName == service).map (·.name)
  let configs ← liveConfigs names
  .report .debug ("Built config index with " ++ toString configs.length ++ " maps (" ++
    toString (names.length - configs.length) ++ " skipped)")
  return configs

end MapMetrics
