import MapMetrics.Proofs.Cluster.Index
import MapMetrics.Proofs.Report.Cycle
import Mathlib.Algebra.BigOperators.Group.Finset.Basic

/-!
# What a report says about a cluster

The maps of a service are the names that are enumerated under it and whose configuration resolves.
After every history of operations a report counts each of them once for every trait that it has, and
adds up the counters of those for which no failure is injected, each once in its partition: a report
speaks of sets of names, and neither the order of the objects nor the history behind them matters.
-/

namespace MapMetrics

open scoped BigOperators

/-! ## Maps of a service -/

namespace Cluster

/-- The maps of a service that pass a test: names that are enumerated under the service, and whose
configuration resolves and passes. -/
def mapsWith (c : Cluster) (service : String) (test : MapConfig → Bool) : Finset String :=
  (c.namesOf service).toFinset.filter fun name => (c.resolved? name).any test

/-- Those of them for which no failure is injected. -/
def readableWith (c : Cluster) (service : String) (test : MapConfig → Bool) : Finset String :=
  (c.mapsWith service test).filter fun name => (c.statsFailures.get? name).isNone

/-- The total latency and the operations of a partition of the maps of a service. -/
def totalsOf (c : Cluster) (service : String) (m : LatencyMetric) : LatencyTotals where
  total := ∑ name ∈ c.readableWith service m.selects, m.latencyOf (c.countersOf name)
  count := ∑ name ∈ c.readableWith service m.selects, m.countOf (c.countersOf name)

end Cluster

/-! ## Lists without repetition as sets -/

private theorem countP_filterMap_eq_card {names : List String} (h : names.Nodup)
    (found : String → Option MapConfig) (test : MapConfig → Bool) :
    (names.filterMap found).countP test =
      (names.toFinset.filter fun name => (found name).any test).card := by
  rw [List.countP_filterMap, List.countP_eq_length_filter, ← List.toFinset_filter,
    List.toFinset_card_of_nodup (h.filter _)]
  congr 2
  funext name
  cases found name <;> rfl

namespace Cluster

variable {c : Cluster} {t : Table Value}

/-- A count over an index is the number of the maps that pass the test. -/
theorem count_indexOf (ht : c.Directory t) (service : String) (test : MapConfig → Bool) :
    Trait.count (c.indexOf service) test = (c.mapsWith service test).card := by
  rw [Trait.count, indexOf, countP_filterMap_eq_card (ht.nodup_namesOf service), mapsWith]

/-- A sum over the counters of an index is the sum over the maps that can be read. -/
theorem sum_counters_indexOf (hs : c.Sound) (ht : c.Directory t) (service : String)
    (test : MapConfig → Bool) (f : MapStats → Nat) :
    ((c.answers.counters ((c.indexOf service).filter test)).map f).sum =
      ∑ name ∈ c.readableWith service test, f (c.countersOf name) := by
  have hnodup := ht.nodup_namesOf service
  have hlist (names : List String) :
      (c.answers.counters ((names.filterMap c.resolved?).filter test)).map f =
        (names.filter fun name => (c.resolved? name).any test &&
          (c.statsFailures.get? name).isNone).map fun name => f (c.countersOf name) := by
    induction names with
    | nil => rfl
    | cons name rest ih =>
      cases hr : c.resolved? name with
      | none => simpa [hr] using ih
      | some config =>
        have hname := hs.name_of_resolved hr
        have hstats : c.answers.stats name = _ := hs.mapStats_of_resolved hr
        rw [List.filterMap_cons_some hr]
        by_cases htest : test config
        · rw [List.filter_cons_of_pos htest]
          cases hf : c.statsFailures.get? name with
          | none =>
            rw [hf] at hstats
            simpa [Answers.counters, Except.toOption, hname, hstats, hr, htest, hf] using ih
          | some failure =>
            rw [hf] at hstats
            simpa [Answers.counters, Except.toOption, hname, hstats, hr, htest, hf] using ih
        · simpa [hr, htest] using ih
  rw [indexOf, hlist, ← List.sum_toFinset _ (hnodup.filter _), List.toFinset_filter, readableWith,
    mapsWith, Finset.filter_filter]
  simp only [Bool.and_eq_true]

/-- The average over an index is that of the totals of the maps that can be read. -/
theorem average_indexOf (hs : c.Sound) (ht : c.Directory t) (service : String)
    (m : LatencyMetric) :
    c.answers.average m (c.indexOf service) = (c.totalsOf service m).average := by
  rw [Answers.average, LatencyMetric.sumOver, sum_counters_indexOf hs ht,
    sum_counters_indexOf hs ht, totalsOf]

end Cluster

/-! ## Reports -/

/-- The text of an average: the quotient without its fraction, or `-1` without operations. -/
def LatencyTotals.text (t : LatencyTotals) : String :=
  if t.count = 0 then "-1" else toString (t.total / t.count)

theorem LatencyTotals.toString_average (t : LatencyTotals) : toString t.average = t.text := by
  rw [average, text]
  by_cases h : t.count = 0
  · rw [if_pos h, if_pos h]
    rfl
  · rw [if_neg h, if_neg h]
    rfl

namespace Report

/-- A shop at work: a map in a store, a map whose counters cannot be read, a map that an object of
another service hides, and two requests for a map that is not there. -/
def shop : List Operation := [
  .addMap { name := "orders", mapStore := { enabled := true } }
    (some { totalGetLatency := 105, getOperationCount := 10 }),
  .addMap { name := "carts", readBackupData := true } none,
  .failStats "carts" none,
  .addMap { name := "jobs" } none,
  .addObject "jobs" "hz:impl:queueService",
  .forgetConfig "users",
  .updateStats "users" {}]

/-- What is reported about the shop: two maps, and reads of the one in the store. -/
def shopReport : Report :=
  (keys .descriptive).zip
    ["1", "1", "0", "0", "0", "0", "0", "0", "0", "-1", "-1", "10", "-1"]

end Report

end MapMetrics
