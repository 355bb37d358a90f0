import MapMetrics.Report.Index
import MapMetrics.Report.Latency

/-!
# Collection cycles

A cycle makes one report: the traits are counted over an index that is built once, and the average
latencies are computed over the same index, one after another or side by side. A report has one
entry for every trait and every average, in the order of the catalogs, or there is none: when the
cluster cannot be read, or an average cannot be written, the whole cycle fails.
-/

namespace MapMetrics

/-- Keys with decimal texts. -/
abbrev Report := List (String × String)

namespace Report

/-- The name that failures of a cycle give as that of their collector. -/
def collectorName : String := "map_info"

/-- A failure of a part of a cycle. One to read the cluster is a failure of the collection; others
stay as they are. -/
def failed {α : Type} (doing : String) (r : Raised) : Query α :=
  if r.failure.isAccess then
    let failure := Failure.collection (doing ++ ": " ++ r.failure.message) (some collectorName)
    .note ⟨.debug, "GridPulseError: " ++ failure.message⟩ (.raise ⟨failure, some r.failure⟩)
  else .raise r

/-- A part of a cycle. -/
def part {α : Type} (doing : String) (q : Query α) : Query α := do
  match ← q.attempt with
  | .ok a => return a
  | .error r => failed doing r

/-- The counts of the traits. -/
def counts (style : KeyStyle) (configs : List MapConfig) : Report :=
  Trait.catalog.map fun t =>
    (t.label.reportKey style, toString (Trait.count configs t.holds))

/-- Queries one after another: the first failure is the end. -/
def inTurn {α : Type} : List (Query α) → Query (List α)
  | [] => .done []
  | q :: rest => do
    let a ← q
    let others ← inTurn rest
    return a :: others

/-- Queries to their own ends, each with its outcome. -/
def allOutcomes {α : Type} : List (Query α) → Query (List (Except Raised α))
  | [] => .done []
  | q :: rest => do
    let outcome ← q.attempt
    let others ← allOutcomes rest
    return outcome :: others

/-- Queries side by side: all come to their own ends, and then the first failure in their order
counts. -/
def sideBySide {α : Type} (qs : List (Query α)) : Query (List α) := do
  let outcomes ← allOutcomes qs
  .ofExcept (outcomes.mapM id)

/-- The average latencies. -/
def averages (settings : Settings) (configs : List MapConfig) : Query (List Int) :=
  let queries := LatencyMetric.catalog.map fun m => m.average settings.isolateStatsFailures configs
  if settings.parallelAggregation then sideBySide queries else inTurn queries

/-- The entry of an average, which may have too many digits to be written. -/
def entry (style : KeyStyle) (m : LatencyMetric) (average : Int) :
    Except Raised (String × String) :=
  if Number.isWritable average then .ok (m.label.reportKey style, toString average)
  else .error (.ofMishap (.value (Number.tooManyDigits none)))

/-- The entries of the averages. -/
def entries (style : KeyStyle) (averages : List Int) : Except Raised Report :=
  (LatencyMetric.catalog.zip averages).mapM fun p => entry style p.1 p.2

/-- One cycle. -/
def collect (settings : Settings) : Query Report := do
  let configs ← part "Failed to enumerate maps" (configIndex settings.mapServiceName)
  let found ← part "Failed to aggregate map latency" (averages settings configs)
  let latencies ← .ofExcept (entries settings.keyStyle found)
  .report .debug ("Collected map metrics for " ++ toString configs.length ++ " maps")
  return counts settings.keyStyle configs ++ latencies

end Report

end MapMetrics
