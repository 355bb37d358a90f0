import MapMetrics.Proofs.Cluster.History
import MapMetrics.Proofs.Query.Warnings
import MapMetrics.Proofs.Report.Cycle
import MapMetrics.Proofs.Report.Schedule

/-!
# Averages in turn and side by side

As long as the answers stay as they are, it makes no difference to the outcome of a cycle whether
its averages are computed in turn or side by side, by how many workers, and in which order these
take their steps: the first failure in the order of the catalog counts in either case. It makes a
difference to the warnings about maps that are left out, but only when there is no report. In turn,
the aggregations behind the one that fails never start; side by side all of them run to their ends.
-/

namespace MapMetrics

/-! ## Warnings of aggregations -/

namespace Answers

/-- The warning about a configuration that an aggregation leaves out. -/
def skipWarning? (a : Answers) (m : LatencyMetric) (isolate : Bool) (c : MapConfig) :
    Option Event :=
  if m.selects c then
    match a.stats c.name with
    | .ok _ => none
    | .error f =>
      if isolate && f.isIsolable then
        some ⟨.warning, "Skipping latency of map '" ++ c.name ++ "': " ++ f.message⟩
      else none
  else none

/-- The warnings about the configurations that an aggregation leaves out before one is in its
way. -/
def skipWarnings (a : Answers) (m : LatencyMetric) (isolate : Bool) (configs : List MapConfig) :
    List Event :=
  (configs.takeWhile fun c => (a.blocker? m isolate c).isNone).filterMap (a.skipWarning? m isolate)

theorem warnings_totals (a : Answers) (m : LatencyMetric) (isolate : Bool) (t : LatencyTotals)
    (configs : List MapConfig) :
    (m.totals isolate t configs).warnings a =
      (a.skipWarnings m isolate configs : Multiset Event) := by
  induction configs generalizing t with
  | nil => rfl
  | cons c rest ih =>
    by_cases hs : m.selects c
    · rw [LatencyMetric.totals_cons, if_pos hs,
        Query.warnings_bind_of_ok a (Query.result_fetchStats a c.name), Query.warnings_fetchStats,
        zero_add]
      cases hc : a.stats c.name with
      | ok stats =>
        have hb := blocker?_eq_none_of_ok hc m isolate
        have hw : a.skipWarning? m isolate c = none := by simp [skipWarning?, hc]
        change (m.totals isolate _ rest).warnings a = _
        rw [ih]
        simp [skipWarnings, hb, hw]
      | error f =>
        by_cases hi : (isolate && f.isIsolable) = true
        · have hb : a.blocker? m isolate c = none := by simp [blocker?, hs, hc, hi]
          have hw : a.skipWarning? m isolate c =
              some ⟨.warning, "Skipping latency of map '" ++ c.name ++ "': " ++ f.message⟩ := by
            simp [skipWarning?, hs, hc, hi]
          simp only [hi, if_true]
          rw [Query.warnings_bind_of_ok a (Query.result_report a _ _),
            Query.warnings_report_warning, ih]
          simp [skipWarnings, hb, hw]
        · have hb : a.blocker? m isolate c = some f := by simp [blocker?, hs, hc, hi]
          simp only [hi, Bool.false_eq_true, if_false]
          simp [skipWarnings, hb]
    · have hb : a.blocker? m isolate c = none := by simp [blocker?, hs]
      have hw : a.skipWarning? m isolate c = none := by simp [skipWarning?, hs]
      rw [LatencyMetric.totals_cons, if_neg hs, ih]
      simp [skipWarnings, hb, hw]

/-- An average gives the warnings of its aggregation. -/
theorem warnings_average (a : Answers) (m : LatencyMetric) (isolate : Bool)
    (configs : List MapConfig) :
    (m.average isolate configs).warnings a =
      (a.skipWarnings m isolate configs : Multiset Event) := by
  rw [LatencyMetric.average, Query.warnings_bind, warnings_totals]
  cases (m.totals isolate {} configs).result a <;> exact add_zero _

/-- An index is built without a warning. -/
theorem warnings_configIndex (a : Answers) (service : String) :
    (configIndex service).warnings a = 0 := by
  have hlookup (name : String) : (liveConfig name).warnings a = 0 := by
    rw [liveConfig, Query.warnings_bind_of_ok a (Query.result_lookupConfig a name),
      Query.warnings_lookupConfig, zero_add]
    cases a.config name with
    | ok found => cases found <;> rfl
    | error f => cases f <;> rfl
  have hlookups (names : List String) : (liveConfigs names).warnings a = 0 := by
    induction names with
    | nil => rfl
    | cons name rest ih =>
      rw [liveConfigs, Query.warnings_bind, hlookup, zero_add]
      cases (liveConfig name).result a with
      | error r => rfl
      | ok found =>
        simp only [Query.warnings_bind, ih, zero_add]
        cases (liveConfigs rest).result a <;> rfl
  rw [configIndex, Query.warnings_bind, Query.warnings_allObjects, zero_add]
  cases Query.allObjects.result a with
  | error r => rfl
  | ok infos =>
    simp only [Query.warnings_bind, hlookups, zero_add]
    cases (liveConfigs _).result a <;> rfl

end Answers

namespace Report

variable (a : Answers)

/-! ## Several queries -/

section Queries

variable {α : Type}

/-- Queries in turn give no more warnings than all of them, and no fewer if none of them fails. -/
theorem warnings_inTurn (qs : List (Query α)) :
    (inTurn qs).warnings a ≤ (qs.map (·.warnings a)).sum ∧
      ∀ xs, (inTurn qs).result a = .ok xs →
        (inTurn qs).warnings a = (qs.map (·.warnings a)).sum := by
  induction qs with
  | nil => exact ⟨le_refl _, fun _ _ => rfl⟩
  | cons q rest ih =>
    obtain ⟨hle, heq⟩ := ih
    rw [List.map_cons, List.sum_cons]
    cases hq : q.result a with
    | error r =>
      have hw : (inTurn (q :: rest)).warnings a = q.warnings a :=
        Query.warnings_bind_of_error a hq _
      refine ⟨hw ▸ Multiset.le_add_right _ _, fun xs hxs => ?_⟩
      rw [inTurn, Query.result_bind, hq] at hxs
      cases hxs
    | ok x =>
      have hw : (inTurn (q :: rest)).warnings a = q.warnings a + (inTurn rest).warnings a := by
        rw [inTurn, Query.warnings_bind_of_ok a hq, Query.warnings_bind]
        cases (inTurn rest).result a <;> exact congrArg _ (add_zero _)
      refine ⟨hw ▸ Multiset.add_le_add_left hle, fun xs hxs => ?_⟩
      rw [inTurn, Query.result_bind, hq] at hxs
      cases hr : (inTurn rest).result a with
      | error r =>
        simp only [Except.bind, Query.result_bind, hr] at hxs
        cases hxs
      | ok others => rw [hw, heq others hr]

/-- Against fixed answers, the courses of queries are the outcomes that they have alone. -/
theorem results_of_answeredBy {qs : List (Query α)} {courses : List (Query.Course α)}
    (h : List.Forall₂ Query.Takes qs courses)
    (ha : ∀ c ∈ courses, ∀ e ∈ c.transcript, e.AnsweredBy a) :
    Query.results courses = qs.map (·.result a) ∧
      (courses.map fun c => Event.warnings c.events) = qs.map (·.warnings a) := by
  induction h with
  | nil => exact ⟨rfl, rfl⟩
  | @cons q c rest others hq _ ih =>
    obtain ⟨hc, hothers⟩ := List.forall_mem_cons.mp ha
    obtain ⟨hevents, hresult⟩ := hq.eq_outcome hc
    obtain ⟨hresults, hwarnings⟩ := ih hothers
    constructor
    · exact congrArg₂ List.cons hresult hresults
    · exact congrArg₂ List.cons (congrArg Event.warnings hevents) hwarnings

/-- Under every schedule, queries side by side come to what they come to alone, and give their
warnings. -/
theorem outcome_interleaved (schedule : List Nat) (qs : List (Query α)) :
    (interleaved schedule qs).result a = .ok (qs.map (·.result a)) ∧
      (interleaved schedule qs).warnings a = (qs.map (·.warnings a)).sum := by
  obtain ⟨transcript, ha, hfollows⟩ := Query.exists_follows a (interleaved schedule qs)
  obtain ⟨courses, ⟨htakes, htranscript, hevents⟩, hresult⟩ := follows_interleaved hfollows
  have hcourses : ∀ c ∈ courses, ∀ e ∈ c.transcript, e.AnsweredBy a := fun c hc e he =>
    ha e (htranscript.mem_iff.mpr (List.mem_flatMap.mpr ⟨c, hc, he⟩))
  obtain ⟨hresults, hwarnings⟩ := results_of_answeredBy a htakes hcourses
  constructor
  · rw [hresult, hresults]
  · rw [Query.warnings, Event.warnings_of_perm hevents, Event.warnings_flatMap, hwarnings]

end Queries

/-! ## Averages -/

variable (settings : Settings) (configs : List MapConfig)

/-- Under every schedule, the averages are what they are without one. -/
theorem result_averagesUnder (schedule : List Nat) :
    (averagesUnder schedule settings configs).result a =
      ((LatencyMetric.catalog.map fun m =>
        m.average settings.isolateStatsFailures configs).map (·.result a)).mapM id := by
  rw [averagesUnder]
  by_cases hp : settings.parallelAggregation
  · rw [if_pos hp, Query.result_bind, (outcome_interleaved a schedule _).1]
    exact Query.result_ofExcept a _
  · rw [if_neg hp, result_inTurn]

/-- All warnings about maps that are left out, of all aggregations. -/
def allSkipWarnings : Multiset Event :=
  (LatencyMetric.catalog.map fun m =>
    (a.skipWarnings m settings.isolateStatsFailures configs : Multiset Event)).sum

private theorem sum_warnings :
    ((LatencyMetric.catalog.map fun m =>
      m.average settings.isolateStatsFailures configs).map (·.warnings a)).sum =
        allSkipWarnings a settings configs := by
  rw [List.map_map, allSkipWarnings]
  exact congrArg List.sum (List.map_congr_left fun m _ => Answers.warnings_average a m _ configs)

/-- Side by side, the averages give all warnings. In turn they give no more, and all of them if
none of the averages fails. -/
theorem warnings_averagesUnder (schedule : List Nat) :
    (averagesUnder schedule settings configs).warnings a ≤ allSkipWarnings a settings configs ∧
      (settings.parallelAggregation = true ∨
          (∃ found, (averagesUnder schedule settings configs).result a = .ok found) →
        (averagesUnder schedule settings configs).warnings a =
          allSkipWarnings a settings configs) := by
  rw [averagesUnder, ← sum_warnings]
  by_cases hp : settings.parallelAggregation
  · rw [if_pos hp]
    obtain ⟨hresult, hwarnings⟩ := outcome_interleaved a schedule
      (LatencyMetric.catalog.map fun m => m.average settings.isolateStatsFailures configs)
    rw [Query.warnings_bind_of_ok a hresult, hwarnings, Query.warnings_ofExcept, add_zero]
    exact ⟨le_refl _, fun _ => rfl⟩
  · rw [if_neg hp]
    obtain ⟨hle, heq⟩ := warnings_inTurn a
      (LatencyMetric.catalog.map fun m => m.average settings.isolateStatsFailures configs)
    refine ⟨hle, fun h => ?_⟩
    obtain ⟨found, hfound⟩ := h.resolve_left hp
    exact heq found hfound

/-! ## Cycles -/

theorem warnings_part {α : Type} (doing : String) (q : Query α) :
    (part doing q).warnings a = q.warnings a := by
  rw [part, Query.warnings_bind_of_ok a (Query.result_attempt a q), Query.warnings_attempt]
  cases q.result a with
  | ok x => exact add_zero _
  | error r =>
    simp only [failed]
    by_cases h : r.failure.isAccess
    · rw [if_pos h]
      exact add_zero _
    · rw [if_neg h]
      exact add_zero _

/-- The result of a cycle depends on the results of its averages only. -/
theorem result_collectWith (averages : List MapConfig → Query (List Int)) :
    (collectWith averages settings).result a =
      (((configIndex settings.mapServiceName).result a).mapError
        (partFailure "Failed to enumerate maps")).bind fun configs =>
      (((averages configs).result a).mapError
        (partFailure "Failed to aggregate map latency")).bind fun found =>
      (entries settings.keyStyle found).bind fun latencies =>
        .ok (counts settings.keyStyle configs ++ latencies) := by
  simp only [collectWith, Query.result_bind, result_part, Query.result_ofExcept,
    Query.result_report, Query.result_pure]
  rfl

/-- A cycle gives the warnings of its averages, if it comes to them. -/
theorem warnings_collectWith (averages : List MapConfig → Query (List Int)) :
    (collectWith averages settings).warnings a =
      match (configIndex settings.mapServiceName).result a with
      | .ok configs => (averages configs).warnings a
      | .error _ => 0 := by
  have hend (configs : List MapConfig) (found : List Int) :
      Query.warnings a (do
        let latencies ← Query.ofExcept (entries settings.keyStyle found)
        Query.report .debug ("Collected map metrics for " ++ toString configs.length ++ " maps")
        return counts settings.keyStyle configs ++ latencies) = 0 := by
    rw [Query.warnings_bind, Query.warnings_ofExcept, zero_add]
    cases (Query.ofExcept (entries settings.keyStyle found)).result a <;> rfl
  rw [collectWith, Query.warnings_bind, warnings_part, Answers.warnings_configIndex, zero_add,
    result_part]
  cases (configIndex settings.mapServiceName).result a with
  | error r => rfl
  | ok configs =>
    simp only [mapError_ok]
    rw [Query.warnings_bind, warnings_part, result_part]
    cases (averages configs).result a with
    | error r => exact add_zero _
    | ok found => exact (congrArg _ (hend configs found)).trans (add_zero _)

/-- With an index, a cycle gives all warnings about maps that are left out when its averages are
computed side by side, or when it ends with a report, and no others in any case. -/
theorem warnings_collectUnder_of_ok {configs : List MapConfig}
    (h : (configIndex settings.mapServiceName).result a = .ok configs) (schedule : List Nat) :
    (collectUnder schedule settings).warnings a ≤ allSkipWarnings a settings configs ∧
      (settings.parallelAggregation = true ∨
          (∃ report, (collectUnder schedule settings).result a = .ok report) →
        (collectUnder schedule settings).warnings a = allSkipWarnings a settings configs) := by
  obtain ⟨hle, heq⟩ := warnings_averagesUnder a settings configs schedule
  have hw : (collectUnder schedule settings).warnings a =
      (averagesUnder schedule settings configs).warnings a := by
    rw [collectUnder, warnings_collectWith, h]
  rw [hw]
  refine ⟨hle, fun hend => heq (hend.imp_right ?_)⟩
  rintro ⟨report, hreport⟩
  rw [collectUnder, result_collectWith, h] at hreport
  cases hf : (averagesUnder schedule settings configs).result a with
  | ok found => exact ⟨found, rfl⟩
  | error r =>
    simp only [mapError_ok, Except.bind, hf, mapError_error] at hreport
    cases hreport

end Report

end MapMetrics
