import MapMetrics.Validation.Model
import MapMetrics.Map.Config

/-!
# Settings of the collector

What can be set about collecting metrics: whether it takes place and how often, the prefix of the
metrics, the service whose objects are maps, the style of report keys, whether the loss of single
maps is borne, and whether averages are computed side by side and by how many workers.
-/

namespace MapMetrics

/-- The style of the keys of a report. -/
inductive KeyStyle where
  /-- Words. -/
  | descriptive
  /-- Abbreviations. -/
  | compact
  deriving DecidableEq, Repr, Hashable

instance : Named KeyStyle where
  members := [.descriptive, .compact]
  name
    | .descriptive => "descriptive"
    | .compact => "compact"

/-- The settings of the collector. -/
structure Settings where
  /-- Whether metrics are collected. -/
  enabled : Bool := true
  /-- Least seconds between collections, above zero. -/
  collectionInterval : Float := 60.0
  /-- Prefix of the names of metrics, not empty. -/
  metricsPrefix : String := "gridpulse"
  /-- The service whose objects are maps, not empty. -/
  mapServiceName : String := defaultMapService
  /-- Style of the keys of a report. -/
  keyStyle : KeyStyle := .descriptive
  /-- Whether maps without statistics are left out of averages. -/
  isolateStatsFailures : Bool := true
  /-- Whether averages are computed side by side. -/
  parallelAggregation : Bool := false
  /-- How many workers compute averages, at least one. -/
  maxWorkers : Nat := 4
  deriving BEq

namespace Settings

open MapMetrics.Field Model

/-- The fields of settings. -/
def fieldNames : List String :=
  ["enabled", "collection_interval", "metrics_prefix", "map_service_name", "key_style",
   "isolate_stats_failures", "parallel_aggregation", "max_workers"]

instance : Model Settings where
  title := "CollectorSettings"
  ofValue := closedRecord "CollectorSettings" fieldNames fun entries =>
    Settings.mk
      <$> optional entries "enabled" true bool
      <*> optional entries "collection_interval" 60.0 positive
      <*> optional entries "metrics_prefix" "gridpulse" someText
      <*> optional entries "map_service_name" defaultMapService someText
      <*> optional entries "key_style" .descriptive choice
      <*> optional entries "isolate_stats_failures" true bool
      <*> optional entries "parallel_aggregation" false bool
      <*> optional entries "max_workers" 4 (atLeast 1)
  toValue s := fields [
    ("enabled", .bool s.enabled),
    ("collection_interval", .float s.collectionInterval),
    ("metrics_prefix", .text s.metricsPrefix),
    ("map_service_name", .text s.mapServiceName),
    ("key_style", .text (Named.name s.keyStyle)),
    ("isolate_stats_failures", .bool s.isolateStatsFailures),
    ("parallel_aggregation", .bool s.parallelAggregation),
    ("max_workers", .int s.maxWorkers)]

/-- The style of report keys as an expression. -/
def styleLiteral (style : KeyStyle) : String :=
  let name := Named.name style
  "<KeyStyle." ++ name.toUpper ++ ": " ++ Text.quoted name ++ ">"

/-- Settings as an expression. -/
def literal (s : Settings) : String :=
  let entries : List (String × String) := [
    ("enabled", Value.boolLiteral s.enabled),
    ("collection_interval", Number.text s.collectionInterval),
    ("metrics_prefix", Text.quoted s.metricsPrefix),
    ("map_service_name", Text.quoted s.mapServiceName),
    ("key_style", styleLiteral s.keyStyle),
    ("isolate_stats_failures", Value.boolLiteral s.isolateStatsFailures),
    ("parallel_aggregation", Value.boolLiteral s.parallelAggregation),
    ("max_workers", toString s.maxWorkers)]
  "\x7b" ++ ", ".intercalate (entries.map fun e => Text.quoted e.1 ++ ": " ++ e.2) ++ "\x7d"

instance : Hashable Settings where
  hash s := hash s.literal

end Settings

end MapMetrics
