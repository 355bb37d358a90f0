import MapMetrics.Proofs.Report.Index
import MapMetrics.Report.Latency
import Mathlib.Algebra.GroupWithZero.Nat

/-!
# What an average is taken over

Against fixed answers an aggregation adds up the counters of the selected configurations that can be
read, each once for every time that its configuration stands in the list. It fails with the first
failure of a selected configuration that cannot be isolated, and with no other one.
-/

namespace MapMetrics

/-- The totals of some counters. -/
def LatencyMetric.sumOver (m : LatencyMetric) (stats : List MapStats) : LatencyTotals :=
  ⟨(stats.map m.latencyOf).sum, (stats.map m.countOf).sum⟩

namespace Answers

/-- The counters of those configurations that can be read. -/
def counters (a : Answers) (configs : List MapConfig) : List MapStats :=
  configs.filterMap fun c => (a.stats c.name).toOption

/-- The failure with which a configuration ends an aggregation: its counters are asked for, they
cannot be fetched, and the failure is not isolated. -/
def blocker? (a : Answers) (m : LatencyMetric) (isolate : Bool) (c : MapConfig) : Option Failure :=
  if m.selects c then
    match a.stats c.name with
    | .ok _ => none
    | .error f => if isolate && f.isIsolable then none else some f
  else none

/-- The average over the selected configurations that can be read. -/
def average (a : Answers) (m : LatencyMetric) (configs : List MapConfig) : Int :=
  (m.sumOver (a.counters (configs.filter m.selects))).average

/-- Nothing is in the way of an aggregation when all of its counters can be fetched. -/
theorem blocker?_eq_none_of_ok {a : Answers} {c : MapConfig} {stats : MapStats}
    (h : a.stats c.name = .ok stats) (m : LatencyMetric) (isolate : Bool) :
    a.blocker? m isolate c = none := by
  rw [blocker?, h]
  exact ite_self none

/-- The totals grow by the counters that can be read, unless one of the others is in the way. -/
theorem result_totals (a : Answers) (m : LatencyMetric) (isolate : Bool) (t : LatencyTotals)
    (configs : List MapConfig) :
    (m.totals isolate t configs).result a =
      Raised.unless (configs.findSome? (a.blocker? m isolate))
        (t.addCounters (m.sumOver (a.counters (configs.filter m.selects))).total
          (m.sumOver (a.counters (configs.filter m.selects))).count) := by
  induction configs generalizing t with
  | nil => rfl
  | cons c rest ih =>
    by_cases hs : m.selects c
    · rw [LatencyMetric.totals_cons, if_pos hs, Query.result_bind, Query.result_fetchStats]
      cases hc : a.stats c.name with
      | ok stats =>
        have hb := blocker?_eq_none_of_ok hc m isolate
        change ((m.totals isolate _ rest).result a) = _
        rw [ih, List.findSome?_cons, hb]
        simp [counters, hs, hc, Except.toOption, LatencyMetric.sumOver, LatencyTotals.addCounters,
          Nat.add_assoc]
      | error f =>
        by_cases hi : (isolate && f.isIsolable) = true
        · have hb : a.blocker? m isolate c = none := by simp [blocker?, hs, hc, hi]
          simp only [Except.bind, hi, if_true, Query.result_bind, Query.result_report]
          rw [ih, List.findSome?_cons, hb]
          simp [counters, hs, hc, Except.toOption]
        · have hb : a.blocker? m isolate c = some f := by simp [blocker?, hs, hc, hi]
          rw [List.findSome?_cons, hb]
          simp [Except.bind, hi]
    · have hb : a.blocker? m isolate c = none := by simp [blocker?, hs]
      rw [LatencyMetric.totals_cons, if_neg hs, ih, List.findSome?_cons, hb]
      simp [hs]

/-- An average is there unless a selected configuration is in the way. -/
theorem result_average (a : Answers) (m : LatencyMetric) (isolate : Bool)
    (configs : List MapConfig) :
    (m.average isolate configs).result a =
      Raised.unless (configs.findSome? (a.blocker? m isolate)) (a.average m configs) := by
  rw [LatencyMetric.average, Query.result_bind, result_totals]
  cases configs.findSome? (a.blocker? m isolate) with
  | some f => rfl
  | none => simp [Except.bind, average, LatencyTotals.addCounters]

end Answers

end MapMetrics
