import MapMetrics.Proofs.Report.Latency
import MapMetrics.Report.Cycle

/-!
# What a cycle comes to

Against fixed answers a cycle is one index, the counts over it and four averages over it. Whether
the averages are computed in turn or side by side makes no difference to the result: all of them are
there, or the first failure in the order of the catalog counts. A cycle that succeeds has one entry
for every label of the two catalogs, in their order, and no two entries have a common key.
-/

namespace MapMetrics

namespace Report

/-- All labels of a report, in the order of its entries. -/
def labels : List Label :=
  Trait.catalog.map (·.label) ++ LatencyMetric.catalog.map (·.label)

/-- All keys of a report in a style, in the order of its entries. -/
def keys (style : KeyStyle) : List String :=
  labels.map (Label.reportKey style)

/-- The report of an index with its averages. -/
def ofIndex (style : KeyStyle) (configs : List MapConfig) (average : LatencyMetric → Int) :
    Report :=
  counts style configs ++
    LatencyMetric.catalog.map fun m => (m.label.reportKey style, toString (average m))

theorem length_keys (style : KeyStyle) : (keys style).length = 13 := rfl

/-- No two entries of a report have a common key, in either style. -/
theorem nodup_keys (style : KeyStyle) : (keys style).Nodup := by
  cases style <;> decide

theorem keys_ofIndex (style : KeyStyle) (configs : List MapConfig)
    (average : LatencyMetric → Int) : (ofIndex style configs average).map (·.1) = keys style := rfl

/-- Queries in turn come to all of their results, or to the first failure. -/
theorem result_inTurn {α : Type} (a : Answers) (qs : List (Query α)) :
    (inTurn qs).result a = (qs.map (·.result a)).mapM id := by
  induction qs with
  | nil => rfl
  | cons q rest ih =>
    rw [inTurn, Query.result_bind, List.map_cons, List.mapM_cons]
    cases q.result a with
    | error r => rfl
    | ok x =>
      change ((inTurn rest >>= _).result a) = _
      rw [Query.result_bind, ih]
      rfl

theorem result_allOutcomes {α : Type} (a : Answers) (qs : List (Query α)) :
    (allOutcomes qs).result a = .ok (qs.map (·.result a)) := by
  induction qs with
  | nil => rfl
  | cons q rest ih => simp [allOutcomes, ih, Except.bind]

/-- Side by side, queries come to what they come to in turn. -/
theorem result_sideBySide {α : Type} (a : Answers) (qs : List (Query α)) :
    (sideBySide qs).result a = (inTurn qs).result a := by
  rw [sideBySide, Query.result_bind, result_allOutcomes, result_inTurn]
  exact Query.result_ofExcept a _

/-- Several results are all there unless something stands in the way of one, and of several
failures the first counts. -/
theorem mapM_unless {α β : Type} (failure : α → Option Failure) (x : α → β) (items : List α) :
    (items.map fun i => Raised.unless (failure i) (x i)).mapM id =
      Raised.unless (items.findSome? failure) (items.map x) := by
  induction items with
  | nil => rfl
  | cons i rest ih =>
    rw [List.map_cons, List.mapM_cons, ih]
    cases hi : failure i with
    | some f => simp [hi, bind, Except.bind]
    | none =>
      cases hr : rest.findSome? failure with
      | some f => simp [hi, hr, bind, Except.bind]
      | none => simp [hi, hr, bind, Except.bind, pure, Except.pure]

/-- The averages are all there unless a configuration is in the way of one. -/
theorem result_averages (a : Answers) (settings : Settings) (configs : List MapConfig) :
    (averages settings configs).result a =
      Raised.unless
        (LatencyMetric.catalog.findSome? fun m =>
          configs.findSome? (a.blocker? m settings.isolateStatsFailures))
        (LatencyMetric.catalog.map fun m => a.average m configs) := by
  have hsame (qs : List (Query Int)) :
      (if settings.parallelAggregation then sideBySide qs else inTurn qs).result a =
        (qs.map (·.result a)).mapM id := by
    by_cases hp : settings.parallelAggregation
    · rw [if_pos hp, result_sideBySide, result_inTurn]
    · rw [if_neg hp, result_inTurn]
  rw [averages, hsame, List.map_map, ← mapM_unless]
  exact congrArg (List.mapM id)
    (List.map_congr_left fun m _ => Answers.result_average a m _ configs)

/-! ## The entries of averages -/

private theorem mapM_entry (style : KeyStyle) (average : LatencyMetric → Int)
    (ms : List LatencyMetric) :
    (ms.zip (ms.map average)).mapM (fun p => entry style p.1 p.2) =
      if ms.all fun m => Number.isWritable (average m) then
        .ok (ms.map fun m => (m.label.reportKey style, toString (average m)))
      else .error (.ofMishap (.value (Number.tooManyDigits none))) := by
  induction ms with
  | nil => rfl
  | cons m rest ih =>
    rw [List.map_cons, List.zip_cons_cons, List.mapM_cons, ih, List.all_cons, entry]
    by_cases hm : Number.isWritable (average m) = true
    · by_cases hr : (rest.all fun m => Number.isWritable (average m)) = true
      · rw [if_pos hm, if_pos hr, hm, hr]
        rfl
      · rw [if_pos hm, if_neg hr, hm, Bool.true_and, if_neg hr]
        rfl
    · rw [if_neg hm, Bool.eq_false_iff.mpr hm]
      rfl

/-- The entries of averages are there exactly when all averages can be written. -/
theorem entries_catalog (style : KeyStyle) (average : LatencyMetric → Int) :
    entries style (LatencyMetric.catalog.map average) =
      if LatencyMetric.catalog.all fun m => Number.isWritable (average m) then
        .ok (LatencyMetric.catalog.map fun m => (m.label.reportKey style, toString (average m)))
      else .error (.ofMishap (.value (Number.tooManyDigits none))) :=
  mapM_entry style average _

/-! ## The whole cycle -/

/-- What a failure of a part of a cycle is raised as. -/
def partFailure (doing : String) (r : Raised) : Raised :=
  if r.failure.isAccess then
    ⟨.collection (doing ++ ": " ++ r.failure.message) (some collectorName), some r.failure⟩
  else r

theorem result_part {α : Type} (a : Answers) (doing : String) (q : Query α) :
    (part doing q).result a = (q.result a).mapError (partFailure doing) := by
  rw [part, Query.result_bind, Query.result_attempt]
  cases q.result a with
  | ok x => rfl
  | error r =>
    by_cases h : r.failure.isAccess
    · simp [Except.bind, failed, partFailure, h]
    · simp [Except.bind, failed, partFailure, h]

/-- A cycle is an index, the averages over it, and the entries of the averages behind the counts. -/
theorem result_collect (a : Answers) (settings : Settings) :
    (collect settings).result a =
      (((configIndex settings.mapServiceName).result a).mapError
        (partFailure "Failed to enumerate maps")).bind fun configs =>
      (((averages settings configs).result a).mapError
        (partFailure "Failed to aggregate map latency")).bind fun found =>
      (entries settings.keyStyle found).bind fun latencies =>
        .ok (counts settings.keyStyle configs ++ latencies) := by
  simp only [collect, Query.result_bind, result_part, Query.result_ofExcept, Query.result_report,
    Query.result_pure]
  rfl

/-- Without an index there is no report. -/
theorem result_collect_of_index_error {a : Answers} {settings : Settings} {r : Raised}
    (h : (configIndex settings.mapServiceName).result a = .error r) :
    (collect settings).result a = .error (partFailure "Failed to enumerate maps" r) := by
  rw [result_collect, h]
  rfl

/-- With an index, the first configuration that is in the way of an average ends the cycle. Without
one, the report is there if all averages can be written. -/
theorem result_collect_of_index {a : Answers} {settings : Settings} {configs : List MapConfig}
    (h : (configIndex settings.mapServiceName).result a = .ok configs) :
    (collect settings).result a =
      match LatencyMetric.catalog.findSome? fun m =>
        configs.findSome? (a.blocker? m settings.isolateStatsFailures) with
      | some f => .error (partFailure "Failed to aggregate map latency" ⟨f, none⟩)
      | none =>
        if LatencyMetric.catalog.all fun m => Number.isWritable (a.average m configs) then
          .ok (ofIndex settings.keyStyle configs fun m => a.average m configs)
        else .error (.ofMishap (.value (Number.tooManyDigits none))) := by
  rw [result_collect, h]
  simp only [mapError_ok, Except.bind, result_averages]
  cases LatencyMetric.catalog.findSome? fun m =>
      configs.findSome? (a.blocker? m settings.isolateStatsFailures) with
  | some f => rfl
  | none =>
    simp only [Raised.unless_none, mapError_ok, entries_catalog]
    by_cases hw : (LatencyMetric.catalog.all fun m => Number.isWritable (a.average m configs)) =
        true
    · rw [if_pos hw, if_pos hw]
      rfl
    · rw [if_neg hw, if_neg hw]

/-- A cycle gives a report exactly when there is an index, no configuration in it is in the way of
an average, and all averages can be written; the report is that of the index. -/
theorem result_collect_eq_ok_iff {a : Answers} {settings : Settings} {report : Report} :
    (collect settings).result a = .ok report ↔
      ∃ configs, (configIndex settings.mapServiceName).result a = .ok configs ∧
        (∀ m ∈ LatencyMetric.catalog, ∀ c ∈ configs,
          a.blocker? m settings.isolateStatsFailures c = none) ∧
        (∀ m ∈ LatencyMetric.catalog, Number.isWritable (a.average m configs) = true) ∧
        report = ofIndex settings.keyStyle configs fun m => a.average m configs := by
  cases hi : (configIndex settings.mapServiceName).result a with
  | error r => simp [result_collect_of_index_error hi]
  | ok configs =>
    rw [result_collect_of_index hi]
    simp only [Except.ok.injEq, exists_eq_left']
    cases hf : LatencyMetric.catalog.findSome? fun m =>
        configs.findSome? (a.blocker? m settings.isolateStatsFailures) with
    | some f =>
      obtain ⟨m, hm, hc⟩ := List.exists_of_findSome?_eq_some hf
      obtain ⟨c, hc, hb⟩ := List.exists_of_findSome?_eq_some hc
      simp only [reduceCtorEq, false_iff]
      rintro ⟨hn, _⟩
      rw [hn m hm c hc] at hb
      cases hb
    | none =>
      have hn : ∀ m ∈ LatencyMetric.catalog, ∀ c ∈ configs,
          a.blocker? m settings.isolateStatsFailures c = none := by
        intro m hm
        exact List.findSome?_eq_none_iff.mp (List.findSome?_eq_none_iff.mp hf m hm)
      by_cases hw : (LatencyMetric.catalog.all fun m => Number.isWritable (a.average m configs)) =
          true
      · have hw' := List.all_eq_true.mp hw
        simp only [hw, if_true, Except.ok.injEq]
        exact ⟨fun h => ⟨hn, hw', h.symm⟩, fun h => h.2.2.symm⟩
      · simp only [hw]
        refine iff_of_false (by simp) ?_
        rintro ⟨_, hall, _⟩
        exact hw (List.all_eq_true.mpr hall)

end Report

end MapMetrics
