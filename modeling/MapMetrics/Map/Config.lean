import MapMetrics.Validation.Model

/-!
# Configuration of a map

What is configured about a map, as far as it can be counted: the store behind it, its indexes, how
it evicts entries and in which form it keeps them, whether it survives a restart, whether it is
replicated, its derived attributes and its query caches. Two of the settings are lenient choices;
all records refuse fields that they do not know.
-/

namespace MapMetrics

/-- The service that maps belong to unless another one is named. -/
def defaultMapService : String := "hz:impl:mapService"

/-- Which entries are evicted first. -/
inductive EvictionPolicy where
  /-- None is evicted. -/
  | none
  /-- The least recently used. -/
  | lru
  /-- The least frequently used. -/
  | lfu
  /-- Any. -/
  | random
  deriving DecidableEq, Repr, Hashable

instance : Named EvictionPolicy where
  members := [.none, .lru, .lfu, .random]
  name
    | .none => "NONE"
    | .lru => "LRU"
    | .lfu => "LFU"
    | .random => "RANDOM"

/-- The words for eviction policies. -/
def EvictionPolicy.words : Vocabulary :=
  ⟨"eviction policy", "Eviction policy", "policies", Named.names EvictionPolicy⟩

/-- The form in which entries are kept. -/
inductive InMemoryFormat where
  /-- Serialized, on the heap. -/
  | binary
  /-- As objects. -/
  | object
  /-- Serialized, off the heap. -/
  | native
  deriving DecidableEq, Repr, Hashable

instance : Named InMemoryFormat where
  members := [.binary, .object, .native]
  name
    | .binary => "BINARY"
    | .object => "OBJECT"
    | .native => "NATIVE"

/-- The words for formats. -/
def InMemoryFormat.words : Vocabulary :=
  ⟨"in-memory format", "In-memory format", "formats", Named.names InMemoryFormat⟩

/-- The external store behind a map. -/
structure MapStoreConfig where
  /-- Whether there is one in use. -/
  enabled : Bool := false
  /-- What implements it. -/
  className : Option String := none
  deriving DecidableEq, Repr, Hashable

/-- Survival of restarts. -/
structure HotRestartConfig where
  /-- Whether data survive. -/
  enabled : Bool := false
  /-- Whether writes wait for the disk. -/
  fsync : Bool := false
  deriving DecidableEq, Repr, Hashable

/-- Eviction of entries. -/
structure EvictionConfig where
  /-- What is evicted first. -/
  policy : EvictionPolicy := .none
  /-- Entries before eviction starts. -/
  size : Nat := 10000
  deriving DecidableEq, Repr, Hashable

/-- A secondary index. -/
structure IndexConfig where
  /-- The indexed attributes, at least one. -/
  attributes : List String
  /-- Its name. -/
  name : Option String := none
  /-- Its kind. -/
  kind : String := "SORTED"
  deriving DecidableEq, Repr, Hashable

/-- An attribute derived from entries. -/
structure AttributeConfig where
  /-- Its name. -/
  name : String
  /-- What derives it. -/
  extractorClassName : String
  deriving DecidableEq, Repr, Hashable

/-- A view over a map that is kept up to date. -/
structure QueryCacheConfig where
  /-- Its name. -/
  name : String
  /-- Which entries it shows. -/
  predicate : Option String := none
  /-- Whether it shows values too. -/
  includeValue : Bool := true
  deriving DecidableEq, Repr, Hashable

/-- A reference to a replication between clusters. -/
structure WanReplicationRef where
  /-- Its name. -/
  name : String
  /-- How conflicts are merged. -/
  mergePolicy : Option String := none
  deriving DecidableEq, Repr, Hashable

/-- The configuration of a map. -/
structure MapConfig where
  /-- The name of the map, not empty. -/
  name : String
  /-- Whether backups serve reads. -/
  readBackupData : Bool := false
  /-- The store behind it. -/
  mapStore : MapStoreConfig := {}
  /-- Its indexes. -/
  indexes : List IndexConfig := []
  /-- How it evicts. -/
  eviction : EvictionConfig := {}
  /-- How it keeps entries. -/
  inMemoryFormat : InMemoryFormat := .binary
  /-- Whether it survives restarts. -/
  hotRestart : HotRestartConfig := {}
  /-- Its replication between clusters. -/
  wanReplicationRef : Option WanReplicationRef := none
  /-- Its derived attributes. -/
  attributes : List AttributeConfig := []
  /-- Its query caches. -/
  queryCaches : List QueryCacheConfig := []
  deriving DecidableEq, Repr, Hashable

open MapMetrics.Field Model

instance : Model MapStoreConfig where
  title := "MapStoreConfig"
  ofValue := closedRecord "MapStoreConfig" ["enabled", "class_name"] fun entries =>
    MapStoreConfig.mk
      <$> optional entries "enabled" false bool
      <*> optional entries "class_name" none (perhaps text)
  toValue c := fields [("enabled", .bool c.enabled), ("class_name", perhapsText c.className)]

instance : Model HotRestartConfig where
  title := "HotRestartConfig"
  ofValue := closedRecord "HotRestartConfig" ["enabled", "fsync"] fun entries =>
    HotRestartConfig.mk
      <$> optional entries "enabled" false bool
      <*> optional entries "fsync" false bool
  toValue c := fields [("enabled", .bool c.enabled), ("fsync", .bool c.fsync)]

instance : Model EvictionConfig where
  title := "EvictionConfig"
  ofValue := closedRecord "EvictionConfig" ["policy", "size"] fun entries =>
    EvictionConfig.mk
      <$> optional entries "policy" .none (lenient EvictionPolicy.words)
      <*> optional entries "size" 10000 (atLeast 0)
  toValue c := fields [("policy", .text (Named.name c.policy)), ("size", .int c.size)]

instance : Model IndexConfig where
  title := "IndexConfig"
  ofValue := closedRecord "IndexConfig" ["attributes", "name", "type"] fun entries =>
    IndexConfig.mk
      <$> required entries "attributes" (someSequence text)
      <*> optional entries "name" none (perhaps text)
      <*> optional entries "type" "SORTED" text
  toValue c := fields [("attributes", .list (c.attributes.map .text)),
    ("name", perhapsText c.name), ("type", .text c.kind)]

instance : Model AttributeConfig where
  title := "AttributeConfig"
  ofValue := closedRecord "AttributeConfig" ["name", "extractor_class_name"] fun entries =>
    AttributeConfig.mk
      <$> required entries "name" text
      <*> required entries "extractor_class_name" text
  toValue c := fields [("name", .text c.name),
    ("extractor_class_name", .text c.extractorClassName)]

instance : Model QueryCacheConfig where
  title := "QueryCacheConfig"
  ofValue := closedRecord "QueryCacheConfig" ["name", "predicate", "include_value"] fun entries =>
    QueryCacheConfig.mk
      <$> required entries "name" text
      <*> optional entries "predicate" none (perhaps text)
      <*> optional entries "include_value" true bool
  toValue c := fields [("name", .text c.name), ("predicate", perhapsText c.predicate),
    ("include_value", .bool c.includeValue)]

instance : Model WanReplicationRef where
  title := "WanReplicationRef"
  ofValue := closedRecord "WanReplicationRef" ["name", "merge_policy"] fun entries =>
    WanReplicationRef.mk
      <$> required entries "name" text
      <*> optional entries "merge_policy" none (perhaps text)
  toValue c := fields [("name", .text c.name), ("merge_policy", perhapsText c.mergePolicy)]

/-- The fields of a map configuration. -/
def MapConfig.fieldNames : List String :=
  ["name", "read_backup_data", "map_store", "indexes", "eviction", "in_memory_format",
   "hot_restart", "wan_replication_ref", "attributes", "query_caches"]

instance : Model MapConfig where
  title := "MapConfig"
  ofValue := closedRecord "MapConfig" MapConfig.fieldNames fun entries =>
    MapConfig.mk
      <$> required entries "name" someText
      <*> optional entries "read_backup_data" false bool
      <*> optional entries "map_store" {} ofValue
      <*> optional entries "indexes" [] (sequence ofValue)
      <*> optional entries "eviction" {} ofValue
      <*> optional entries "in_memory_format" .binary (lenient InMemoryFormat.words)
      <*> optional entries "hot_restart" {} ofValue
      <*> optional entries "wan_replication_ref" none (perhaps ofValue)
      <*> optional entries "attributes" [] (sequence ofValue)
      <*> optional entries "query_caches" [] (sequence ofValue)
  toValue c := fields [
    ("name", .text c.name),
    ("read_backup_data", .bool c.readBackupData),
    ("map_store", toValue c.mapStore),
    ("indexes", .list (c.indexes.map toValue)),
    ("eviction", toValue c.eviction),
    ("in_memory_format", .text (Named.name c.inMemoryFormat)),
    ("hot_restart", toValue c.hotRestart),
    ("wan_replication_ref", (c.wanReplicationRef.map toValue).getD .null),
    ("attributes", .list (c.attributes.map toValue)),
    ("query_caches", .list (c.queryCaches.map toValue))]

end MapMetrics
