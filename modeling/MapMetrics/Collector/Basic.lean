import MapMetrics.Collector.Metric
import MapMetrics.Number.Literal
import MapMetrics.Report.Cycle

/-!
# Collectors

A collector gives a report of a cluster, from time to time: it is due when it is enabled and its
interval has passed since its last completed collection. It can give its report as typed metrics
too, whose values are the integers that the texts of the report denote. Nothing else is kept between
collections.
-/

namespace MapMetrics

/-- Where a collector takes its reports from. -/
inductive Source where
  /-- The maps of the cluster. -/
  | maps (settings : Settings)
  /-- A report that is always the same. -/
  | fixed (report : Report)
  /-- A failure, always the same. -/
  | failing (failure : Failure)

/-- A collector. -/
structure Collector where
  /-- Name. -/
  name : String
  /-- Whether it collects. -/
  enabled : Bool := true
  /-- Least seconds between collections. -/
  interval : Float := 60.0
  /-- Seconds on the clock after the last completed collection. -/
  last : Float := 0.0
  /-- Prefix of the names of its metrics. -/
  metricsPrefix : String := "gridpulse"
  /-- Where its reports come from. -/
  source : Source

namespace Collector

/-- The collector of maps. -/
def ofSettings (name : String) (settings : Settings) : Collector where
  name := name
  enabled := settings.enabled
  interval := settings.collectionInterval
  metricsPrefix := settings.metricsPrefix
  source := .maps settings

/-- The report of one collection. -/
def report (c : Collector) : Query Report :=
  match c.source with
  | .maps settings => Report.collect settings
  | .fixed report => .done report
  | .failing failure => .raise ⟨failure, none⟩

/-- The collector is due at a time. -/
def isDue (now : Float) (c : Collector) : Bool :=
  c.enabled && c.interval ≤ now - c.last

/-- The unit and the description of an entry of a report of maps. -/
def mapEntry? (style : KeyStyle) (key : String) : Option (MetricUnit × String) :=
  let counts := Trait.catalog.map fun t => (t.label, MetricUnit.count)
  let averages := LatencyMetric.catalog.map fun m => (m.label, MetricUnit.milliseconds)
  ((counts ++ averages).find? fun e => e.1.reportKey style == key).map fun e =>
    (e.2, e.1.description)

/-- The description of an entry that nothing is known about. -/
def defaultDescription (key : String) : String :=
  key ++ " metric"

/-- The kind, the unit and the description of an entry. -/
def describe (key : String) (c : Collector) : MetricType × Option MetricUnit × String :=
  let known := match c.source with
    | .maps settings => mapEntry? settings.keyStyle key
    | _ => none
  match known with
  | some (unit, description) => (.gauge, some unit, description)
  | none => (.gauge, none, defaultDescription key)

/-- The name of a metric. -/
def metricName (name : String) (c : Collector) : String :=
  c.metricsPrefix ++ "." ++ c.name ++ "." ++ name

/-- What is given for a metric beside its name and value. -/
structure MetricDetails where
  /-- Unit. -/
  unit : Option MetricUnit := none
  /-- Labels. -/
  labels : List (Value × Value) := []
  /-- Description; one that is not filled is replaced. -/
  description : Value := .null
  /-- Time; one that is not filled is replaced. -/
  timestamp : Value := .null

private def checked {α : Type} (title : String) : Outcome α → Except Mishap α
  | .valid a => .ok a
  | .invalid first rest => .error (.invalid title first rest)

private def checkedAs {α : Type} [Model α] (v : Value) : Except Mishap α :=
  checked (Model.title α) (Model.ofValue v)

/-- A metric of the collector, whose parts are checked one after another. -/
def createMetric (c : Collector) (now : Float) (name : String) (value : Value)
    (type : MetricType) (details : MetricDetails) : Except Mishap Metric := do
  let value : MetricValue ← checkedAs (Model.fields [("value", value)])
  let labels : List MetricLabel ← details.labels.mapM fun e =>
    checkedAs (Model.fields [("name", e.1), ("value", e.2)])
  checked Metric.title (Metric.ofValue now (Model.fields [
    ("name", .text (c.metricName name)),
    ("value", Model.toValue value),
    ("type", .text (Named.name type)),
    ("unit", (details.unit.map fun u => .text (Named.name u)).getD .null),
    ("labels", .list (labels.map Model.toValue)),
    ("description", details.description.orElse (.text (defaultDescription name))),
    ("timestamp", details.timestamp.orElse (.float now))]))

/-- The integer that a text of a report denotes. -/
def reportedValue (s : String) : Except Mishap Int :=
  (Number.integerIn 10 s.toList).mapError fun flaw => .value (flaw.message 10 s.toList)

/-- The metric of an entry of a report. -/
def metricOf (c : Collector) (now : Float) (entry : String × String) : Except Mishap Metric := do
  let (type, unit, description) := c.describe entry.1
  let n ← reportedValue entry.2
  c.createMetric now entry.1 (.int n) type
    { unit := unit, description := .text description, timestamp := .float now }

/-- A collection of typed metrics, and the collector after it. `due` is the time at which it is
asked whether it is due, and `after` the time after its report is there; a collector that is not due
collects nothing, and one that fails stays as it is. -/
def collect (c : Collector) (due after : Float) : Query (List Metric × Collector) :=
  if c.isDue due then do
    let report ← c.report
    match report.mapM (c.metricOf after) with
    | .ok metrics => do
      .report .debug ("Collected " ++ toString metrics.length ++ " metrics from '" ++ c.name ++ "'")
      return (metrics, { c with last := after })
    | .error m => .raise (.ofMishap m)
  else return ([], c)

end Collector

end MapMetrics
