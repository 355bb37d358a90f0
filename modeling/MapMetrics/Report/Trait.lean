import MapMetrics.Map.Config
import MapMetrics.Settings.Basic

/-!
# Traits of maps

A trait is a test of the configuration of a map, and a report counts the maps that have it. The
catalog lists the traits in the order of reports. Every entry of a report goes by two keys, one in
words and one abbreviated.
-/

namespace MapMetrics

/-- What an entry of a report is called. -/
structure Label where
  /-- Key in words. -/
  key : String
  /-- Abbreviated key. -/
  compactKey : String
  /-- What the entry is about. -/
  description : String
  deriving DecidableEq, Repr

/-- The key in a style. -/
def Label.reportKey (style : KeyStyle) (label : Label) : String :=
  match style with
  | .descriptive => label.key
  | .compact => label.compactKey

/-- A trait of maps. -/
structure Trait where
  /-- What it is called. -/
  label : Label
  /-- Whether a map has it. -/
  holds : MapConfig → Bool

/-- The maps with a store behind them. -/
def MapConfig.isStoreBacked (c : MapConfig) : Bool :=
  c.mapStore.enabled

namespace Trait

/-- All traits, in the order of reports. -/
def catalog : List Trait := [
  ⟨⟨"backup-read-enabled-count", "mpbrct", "Maps that serve reads from backup replicas"⟩,
    fun c => c.readBackupData⟩,
  ⟨⟨"store-backed-count", "mpmsct", "Maps backed by an external map store"⟩,
    MapConfig.isStoreBacked⟩,
  ⟨⟨"query-view-count", "mpaoqcct", "Maps with at least one query cache"⟩,
    fun c => !c.queryCaches.isEmpty⟩,
  ⟨⟨"indexed-count", "mpaoict", "Maps with at least one secondary index"⟩,
    fun c => !c.indexes.isEmpty⟩,
  ⟨⟨"durable-restart-count", "mphect", "Maps with hot restart persistence enabled"⟩,
    fun c => c.hotRestart.enabled⟩,
  ⟨⟨"replicated-count", "mpwact", "Maps with a WAN replication reference"⟩,
    fun c => c.wanReplicationRef.isSome⟩,
  ⟨⟨"attributed-count", "mpaocct", "Maps with at least one custom attribute"⟩,
    fun c => !c.attributes.isEmpty⟩,
  ⟨⟨"eviction-enabled-count", "mpevct", "Maps using an eviction policy"⟩,
    fun c => c.eviction.policy != .none⟩,
  ⟨⟨"native-memory-count", "mpnmct", "Maps storing entries in native memory"⟩,
    fun c => c.inMemoryFormat == .native⟩]

/-- The opposite of a test. -/
def negate (test : MapConfig → Bool) : MapConfig → Bool :=
  fun c => !test c

/-- How many configurations pass a test. -/
def count (configs : List MapConfig) (test : MapConfig → Bool) : Nat :=
  configs.countP test

end Trait

end MapMetrics
