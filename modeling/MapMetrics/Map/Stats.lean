import MapMetrics.Map.Config

/-!
# Statistics and identity of distributed objects

The live counters of a map: total latencies in milliseconds and numbers of operations, none of them
negative. The identity of a distributed object is its name and the service that it belongs to.
-/

namespace MapMetrics

/-- The counters of a map. -/
structure MapStats where
  /-- Milliseconds spent reading. -/
  totalGetLatency : Nat := 0
  /-- Reads. -/
  getOperationCount : Nat := 0
  /-- Milliseconds spent writing. -/
  totalPutLatency : Nat := 0
  /-- Writes. -/
  putOperationCount : Nat := 0
  deriving DecidableEq, Repr, Hashable

/-- The identity of a distributed object. -/
structure ObjectInfo where
  /-- Its name. -/
  name : String
  /-- The service that it belongs to. -/
  serviceName : String := defaultMapService
  deriving DecidableEq, Repr, Hashable

open MapMetrics.Field Model

instance : Model MapStats where
  title := "LocalMapStats"
  ofValue := closedRecord "LocalMapStats"
    ["total_get_latency", "get_operation_count", "total_put_latency", "put_operation_count"]
    fun entries =>
      MapStats.mk
        <$> optional entries "total_get_latency" 0 (atLeast 0)
        <*> optional entries "get_operation_count" 0 (atLeast 0)
        <*> optional entries "total_put_latency" 0 (atLeast 0)
        <*> optional entries "put_operation_count" 0 (atLeast 0)
  toValue s := fields [
    ("total_get_latency", .int s.totalGetLatency),
    ("get_operation_count", .int s.getOperationCount),
    ("total_put_latency", .int s.totalPutLatency),
    ("put_operation_count", .int s.putOperationCount)]

instance : Model ObjectInfo where
  title := "DistributedObjectInfo"
  ofValue := closedRecord "DistributedObjectInfo" ["name", "service_name"] fun entries =>
    ObjectInfo.mk
      <$> required entries "name" text
      <*> optional entries "service_name" defaultMapService text
  toValue o := fields [("name", .text o.name), ("service_name", .text o.serviceName)]

end MapMetrics
