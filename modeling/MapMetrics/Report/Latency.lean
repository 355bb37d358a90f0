import MapMetrics.Cluster.Query
import MapMetrics.Number.Integer
import MapMetrics.Report.Trait

/-!
# Average latencies

The average latency of a set of maps is the total latency divided by the number of operations,
without the fraction; without any operation there is none, which is written as -1. Totals start
from and grow by numbers that are not negative, so they never shrink.

A report gives the averages of writes and reads, each for the maps with a store behind them and for
the others. A map whose counters cannot be fetched may be left out, with a warning.
-/

namespace MapMetrics

/-- A total latency and the operations that it took. -/
structure LatencyTotals where
  /-- Milliseconds. -/
  total : Nat := 0
  /-- Operations. -/
  count : Nat := 0
  deriving DecidableEq, Repr

/-- Numbers that are no totals. -/
inductive LatencyError where
  /-- Totals to start from. -/
  | start
  /-- Totals to add. -/
  | sample (total count : Int)
  deriving DecidableEq, Repr

/-- What is wrong with the numbers. A sample that cannot be written is not shown. -/
def LatencyError.message : LatencyError → String
  | start => "Latency totals must be non-negative"
  | sample total count =>
    if Number.isWritable total && Number.isWritable count then
      "Cannot add negative sample (" ++ toString total ++ ", " ++ toString count ++ ")"
    else Number.tooManyDigits none

namespace LatencyTotals

/-- What stands for an average without operations. -/
def noData : Int := -1

/-- Totals to start from. -/
def make (total count : Int) : Except LatencyError LatencyTotals :=
  if total < 0 || count < 0 then .error .start else .ok ⟨total.toNat, count.toNat⟩

/-- Adds to totals in place: once neither number is found to be negative, first the latency and
then the operations. -/
def grow (total count : Int) : EStateM LatencyError LatencyTotals Unit := do
  if total < 0 || count < 0 then throw (.sample total count)
  modify fun t => { t with total := t.total + total.toNat }
  modify fun t => { t with count := t.count + count.toNat }

/-- Totals with others added. -/
def add (total count : Int) (t : LatencyTotals) : Except LatencyError LatencyTotals :=
  match (grow total count).run t with
  | .ok _ grown => .ok grown
  | .error e _ => .error e

/-- Totals with the counters of a map added. -/
def addCounters (total count : Nat) (t : LatencyTotals) : LatencyTotals :=
  ⟨t.total + total, t.count + count⟩

/-- The average without its fraction. -/
def average (t : LatencyTotals) : Int :=
  if t.count = 0 then noData else (t.total / t.count : Nat)

/-- Neither number of a sample is negative. -/
def accepts (sample : Int × Int) : Bool :=
  0 ≤ sample.1 && 0 ≤ sample.2

/-- An accepted sample is added to both totals. -/
theorem grow_of_accepts {sample : Int × Int} (h : accepts sample = true) (t : LatencyTotals) :
    (grow sample.1 sample.2).run t =
      .ok () ⟨t.total + sample.1.toNat, t.count + sample.2.toNat⟩ := by
  have hcheck : (decide (sample.1 < 0) || decide (sample.2 < 0)) = false := by
    simp only [accepts, Bool.and_eq_true, decide_eq_true_iff] at h
    simp only [Bool.or_eq_false_iff, decide_eq_false_iff_not]
    omega
  simp only [grow, hcheck]
  rfl

/-- Another one is refused before anything is added. -/
theorem grow_of_not_accepts {sample : Int × Int} (h : accepts sample = false)
    (t : LatencyTotals) :
    (grow sample.1 sample.2).run t = .error (.sample sample.1 sample.2) t := by
  have hcheck : (decide (sample.1 < 0) || decide (sample.2 < 0)) = true := by
    simp only [accepts, Bool.and_eq_false_iff, decide_eq_false_iff_not] at h
    simp only [Bool.or_eq_true, decide_eq_true_iff]
    omega
  simp only [grow, hcheck]
  rfl

/-- Counters are never refused. -/
theorem add_natCast (total count : Nat) (t : LatencyTotals) :
    t.add total count = .ok (t.addCounters total count) := by
  have haccepts : accepts ((total : Int), (count : Int)) = true := by simp [accepts]
  rw [add, show (grow total count).run t = _ from grow_of_accepts haccepts t]
  rfl

end LatencyTotals

/-- An average of a report. -/
structure LatencyMetric where
  /-- What it is called. -/
  label : Label
  /-- The maps that it is about. -/
  selects : MapConfig → Bool
  /-- The latency of a map. -/
  latencyOf : MapStats → Nat
  /-- The operations of a map. -/
  countOf : MapStats → Nat

namespace LatencyMetric

/-- All averages, in the order of reports. -/
def catalog : List LatencyMetric := [
  ⟨⟨"put-latency-average-store-backed", "mpptlams",
      "Average put latency of maps backed by a map store"⟩,
    MapConfig.isStoreBacked, MapStats.totalPutLatency, MapStats.putOperationCount⟩,
  ⟨⟨"put-latency-average-not-store-backed", "mpptla",
      "Average put latency of maps without a map store"⟩,
    Trait.negate MapConfig.isStoreBacked, MapStats.totalPutLatency, MapStats.putOperationCount⟩,
  ⟨⟨"get-latency-average-store-backed", "mpgtlams",
      "Average get latency of maps backed by a map store"⟩,
    MapConfig.isStoreBacked, MapStats.totalGetLatency, MapStats.getOperationCount⟩,
  ⟨⟨"get-latency-average-not-store-backed", "mpgtla",
      "Average get latency of maps without a map store"⟩,
    Trait.negate MapConfig.isStoreBacked, MapStats.totalGetLatency, MapStats.getOperationCount⟩]

/-- Adds up the counters of the selected maps, each fetched once. When failures are isolated, a map
that cannot be read is left out. -/
def totals (m : LatencyMetric) (isolate : Bool) (t : LatencyTotals) :
    List MapConfig → Query LatencyTotals
  | [] => .done t
  | c :: rest =>
    if m.selects c then do
      match ← Query.fetchStats c.name with
      | .ok stats =>
        match t.add (m.latencyOf stats) (m.countOf stats) with
        | .ok grown => totals m isolate grown rest
        | .error e => .raise (.ofMishap (.value e.message))
      | .error f =>
        if isolate && f.isIsolable then do
          .report .warning ("Skipping latency of map '" ++ c.name ++ "': " ++ f.message)
          totals m isolate t rest
        else .raise ⟨f, none⟩
    else totals m isolate t rest

/-- Counters are never refused, so a map is fetched and added, left out, or in the way. -/
theorem totals_cons (m : LatencyMetric) (isolate : Bool) (t : LatencyTotals) (c : MapConfig)
    (rest : List MapConfig) :
    m.totals isolate t (c :: rest) =
      if m.selects c then do
        match ← Query.fetchStats c.name with
        | .ok stats => m.totals isolate (t.addCounters (m.latencyOf stats) (m.countOf stats)) rest
        | .error f =>
          if isolate && f.isIsolable then do
            .report .warning ("Skipping latency of map '" ++ c.name ++ "': " ++ f.message)
            m.totals isolate t rest
          else .raise ⟨f, none⟩
      else m.totals isolate t rest := by
  rw [totals]
  simp only [LatencyTotals.add_natCast]

/-- The average over the selected maps. -/
def average (m : LatencyMetric) (isolate : Bool) (configs : List MapConfig) : Query Int := do
  return (← m.totals isolate {} configs).average

end LatencyMetric

end MapMetrics
