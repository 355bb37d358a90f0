import MapMetrics.Proofs.Report.Parallel
import MapMetrics.Proofs.Report.Readings

/-!
# What a report has read

The averages of a report are over two partitions that are disjoint and leave nothing out, so that
each configuration of the index is selected by two of them, one of writes and one of reads. A cycle
that ends with a report has therefore asked for the counters of each configuration twice, for those
of no others, and has warned twice about each whose counters could not be fetched.
-/

namespace MapMetrics

variable {transcript : List Exchange} {events : List Event}

theorem flatMap_filter {α β : Type} (p : α → Bool) (f : α → List β) (xs : List α) :
    (xs.filter p).flatMap f = xs.flatMap fun x => if p x then f x else [] := by
  induction xs with
  | nil => rfl
  | cons x rest ih => by_cases h : p x = true <;> simp [h, ih]

/-- What rows hold of the columns that they select is what columns hold for the rows that select
them. -/
theorem flatMap_filter_swap {α β γ : Type} (selects : α → β → Bool) (g : β → List γ) (xs : List α)
    (ys : List β) :
    (xs.flatMap fun x => (ys.filter (selects x)).flatMap g).Perm
      (ys.flatMap fun y => (xs.filter (selects · y)).flatMap fun _ => g y) := by
  simp only [flatMap_filter]
  induction ys with
  | nil => simp
  | cons y rest ih =>
    simp only [List.flatMap_cons]
    exact (List.flatMap_append_perm xs _ _).symm.trans (ih.append_left _)

namespace LatencyMetric

/-- The keys of the averages over a partition. -/
def keysOver (backed : Bool) : List String :=
  if backed then ["put-latency-average-store-backed", "get-latency-average-store-backed"]
  else ["put-latency-average-not-store-backed", "get-latency-average-not-store-backed"]

/-- A configuration is selected by the averages over its own partition. -/
theorem keys_filter_selects (c : MapConfig) :
    (catalog.filter fun m => m.selects c).map (·.label.key) = keysOver c.isStoreBacked := by
  cases h : c.isStoreBacked <;> simp [catalog, Trait.negate, keysOver, h]

/-- What is done with each configuration for each average that selects it is done twice with each
configuration. -/
theorem perm_twice {γ : Type} (g : MapConfig → List γ) (configs : List MapConfig) :
    (catalog.flatMap fun m => (configs.filter m.selects).flatMap g).Perm
      (configs.flatMap fun c => g c ++ g c) := by
  have htwice (c : MapConfig) :
      ((catalog.filter fun m => m.selects c).flatMap fun _ => g c) = g c ++ g c := by
    rw [List.flatMap_def, List.map_const', length_filter_selects]
    simp
  exact (flatMap_filter_swap selects g catalog configs).trans
    (.of_eq (List.flatMap_congr fun c _ => htwice c))

end LatencyMetric

/-! ## Lookups -/

namespace Answers

/-- The reading of a configuration. -/
def reading (a : Answers) (c : MapConfig) : Reading :=
  (c.name, a.stats c.name)

/-- Readings that are answered alike are those of the selected configurations. -/
theorem readings_eq {a : Answers} {m : LatencyMetric} {configs : List MapConfig}
    {readings : List Reading} (h : m.ReadFor configs readings)
    (ha : ∀ r ∈ readings, r.2 = a.stats r.1) :
    readings = (configs.filter m.selects).map a.reading :=
  calc
    readings = readings.map fun r => (r.1, a.stats r.1) :=
      (List.map_id readings).symm.trans
        (List.map_congr_left fun r hr => Prod.ext rfl (ha r hr))
    _ = (readings.map (·.1)).map fun name => (name, a.stats name) := by
      rw [List.map_map]
      rfl
    _ = ((configs.filter m.selects).map (·.name)).map fun name => (name, a.stats name) := by
      rw [h]
    _ = (configs.filter m.selects).map a.reading := List.map_map

end Answers

/-- A lookup of a configuration asks for no counters. -/
theorem no_reading_of_liveConfig {name : String} {result : Except Raised (Option MapConfig)}
    (h : (liveConfig name).Follows transcript events result) :
    transcript.filterMap Exchange.reading? = [] := by
  unfold liveConfig Query.lookupConfig at h
  cases h with
  | @config _ _ answer rest _ _ h =>
    have hrest : rest = [] := by
      cases answer with
      | ok found =>
        cases found with
        | none => cases h with | note h => cases h; rfl
        | some config => cases h; rfl
      | error f =>
        cases f with
        | notFound gone message => cases h with | note h => cases h; rfl
        | _ => cases h; rfl
    rw [hrest]
    rfl

/-- Lookups of configurations ask for no counters. -/
theorem no_reading_of_liveConfigs {names : List String}
    {result : Except Raised (List MapConfig)}
    (h : (liveConfigs names).Follows transcript events result) :
    transcript.filterMap Exchange.reading? = [] := by
  induction names generalizing transcript events result with
  | nil => cases h; rfl
  | cons name rest ih =>
    rcases Query.Follows.of_bind h with ⟨r, hf, -⟩ | ⟨found, t, u, es, fs, hf, hrest, rfl, rfl⟩
    · exact no_reading_of_liveConfig hf
    · rw [List.filterMap_append, no_reading_of_liveConfig hf, List.nil_append]
      rcases hrest.of_bind with ⟨r, hl, -⟩ | ⟨others, v, w, fs, gs, hl, hend, rfl, rfl⟩
      · exact ih hl
      · cases hend
        rw [List.append_nil]
        exact ih hl

/-- An index is built without counters. -/
theorem no_reading_of_configIndex {service : String} {result : Except Raised (List MapConfig)}
    (h : (configIndex service).Follows transcript events result) :
    transcript.filterMap Exchange.reading? = [] := by
  unfold configIndex Query.allObjects at h
  cases h with
  | @objects _ answer rest _ _ h =>
    change rest.filterMap Exchange.reading? = []
    cases answer with
    | error f => cases h; rfl
    | ok infos =>
      change Query.Follows (liveConfigs (ObjectInfo.namesUnder service infos) >>= _) _ _ _ at h
      rcases h.of_bind with ⟨r, hl, -⟩ | ⟨configs, t, u, es, fs, hl, hend, rfl, rfl⟩
      · exact no_reading_of_liveConfigs hl
      · cases hend with
        | note hend =>
          cases hend
          rw [List.append_nil]
          exact no_reading_of_liveConfigs hl

namespace Report

/-- A cycle that ends with a report has asked for the counters of each configuration of its index
once for each average that selects it, and for no others. -/
theorem readings_of_report {a : Answers} {schedule : List Nat} {settings : Settings}
    {report : Report}
    (h : (collectUnder schedule settings).Follows transcript events (.ok report))
    (ha : ∀ e ∈ transcript, e.AnsweredBy a) :
    ∃ configs, (configIndex settings.mapServiceName).result a = .ok configs ∧
      (transcript.filterMap Exchange.reading?).Perm
        (LatencyMetric.catalog.flatMap fun m => (configs.filter m.selects).map a.reading) := by
  unfold collectUnder collectWith at h
  rcases h.of_bind with ⟨r, -, hr⟩ | ⟨configs, t, u, es, fs, hi, hrest, rfl, rfl⟩
  · cases hr
  obtain ⟨ht, hu⟩ := List.forall_mem_append.mp ha
  obtain ⟨_, attempted, hindex, hok⟩ := follows_part hi
  cases (hok configs).mpr rfl
  rcases hrest.of_bind with ⟨r, -, hr⟩ | ⟨found, v, w, fs, gs, hf, hend, rfl, rfl⟩
  · cases hr
  obtain ⟨hv, -⟩ := List.forall_mem_append.mp hu
  obtain ⟨_, attempted, haverages, hok⟩ := follows_part hf
  cases (hok found).mpr rfl
  -- nothing is read once the averages are there
  have hw : w = [] := by
    rcases hend.of_bind with ⟨r, -, hr⟩ | ⟨latencies, x, y, gs, hs, he, hlast, rfl, rfl⟩
    · cases hr
    · obtain ⟨rfl, -, -⟩ := he.of_ofExcept
      cases hlast with
      | note hlast => cases hlast; rfl
  refine ⟨configs, (hindex.eq_outcome ht).2.symm, ?_⟩
  rcases follows_averagesUnder haverages with ⟨readings, hreadings, hperm, -⟩ | ⟨-, r, hr⟩
  · rw [hw, List.append_nil, List.filterMap_append, no_reading_of_configIndex hindex,
      List.nil_append]
    refine (hperm.filterMap Exchange.reading?).trans (.of_eq ?_)
    rw [List.filterMap_flatMap]
    refine List.flatMap_congr fun m hm => ?_
    rw [filterMap_reading?]
    refine Answers.readings_eq (hreadings m hm) fun r hr => ?_
    exact hv (.stats r.1 r.2)
      (hperm.mem_iff.mpr (List.mem_flatMap.mpr ⟨m, hm, List.mem_map_of_mem hr⟩))
  · cases hr

end Report

/-! ## Warnings -/

namespace Answers

/-- The warning about a configuration whose counters cannot be fetched. -/
def leftOut (a : Answers) (c : MapConfig) : List Event :=
  match a.stats c.name with
  | .ok _ => []
  | .error f => [⟨.warning, "Skipping latency of map '" ++ c.name ++ "': " ++ f.message⟩]

/-- A configuration that is not in the way of an aggregation is warned about if it is selected and
its counters cannot be fetched. -/
theorem toList_skipWarning? {a : Answers} {m : LatencyMetric} {isolate : Bool} {c : MapConfig}
    (h : a.blocker? m isolate c = none) :
    (a.skipWarning? m isolate c).toList = if m.selects c then a.leftOut c else [] := by
  by_cases hs : m.selects c = true
  · rw [blocker?, if_pos hs] at h
    rw [skipWarning?, if_pos hs, if_pos hs, leftOut]
    cases hstats : a.stats c.name with
    | ok stats => rfl
    | error f =>
      have hi : (isolate && f.isIsolable) = true := by simpa [hstats] using h
      simp only [hi, if_true]
      rfl
  · rw [skipWarning?, if_neg hs, if_neg hs]
    rfl

/-- An aggregation that nothing is in the way of warns about each selected configuration whose
counters cannot be fetched. -/
theorem skipWarnings_of_unblocked {a : Answers} {m : LatencyMetric} {isolate : Bool}
    {configs : List MapConfig} (h : ∀ c ∈ configs, a.blocker? m isolate c = none) :
    a.skipWarnings m isolate configs = (configs.filter m.selects).flatMap a.leftOut := by
  rw [flatMap_filter]
  induction configs with
  | nil => rfl
  | cons c rest ih =>
    obtain ⟨hc, hrest⟩ := List.forall_mem_cons.mp h
    have hcons : a.skipWarnings m isolate (c :: rest) =
        (a.skipWarning? m isolate c).toList ++ a.skipWarnings m isolate rest := by
      simp only [skipWarnings, List.takeWhile_cons, hc, Option.isNone_none, if_true,
        List.filterMap_cons]
      cases a.skipWarning? m isolate c <;> rfl
    rw [hcons, ih hrest, toList_skipWarning? hc, List.flatMap_cons]

end Answers

namespace Report

/-- The result of a cycle does not depend on its schedule. -/
theorem result_collectUnder (a : Answers) (settings : Settings) (schedule : List Nat) :
    (collectUnder schedule settings).result a = (collect settings).result a := by
  rw [← collectUnder_nil, collectUnder, collectUnder, result_collectWith, result_collectWith]
  simp only [result_averagesUnder]

private theorem sum_map_coe {α : Type} (f : α → List Event) (xs : List α) :
    (xs.map fun x => (f x : Multiset Event)).sum = (xs.flatMap f : List Event) := by
  induction xs with
  | nil => rfl
  | cons x rest ih =>
    rw [List.map_cons, List.sum_cons, ih, List.flatMap_cons]
    rfl

/-- A cycle that ends with a report has warned twice about each configuration of its index whose
counters cannot be fetched, and about nothing else. -/
theorem warnings_of_report {a : Answers} {schedule : List Nat} {settings : Settings}
    {configs : List MapConfig} {report : Report}
    (hi : (configIndex settings.mapServiceName).result a = .ok configs)
    (hreport : (collectUnder schedule settings).result a = .ok report) :
    (collectUnder schedule settings).warnings a =
      (configs.flatMap fun c => a.leftOut c ++ a.leftOut c : List Event) := by
  have hcollect : (collect settings).result a = .ok report := by
    rw [← result_collectUnder a settings schedule, hreport]
  -- there would be no report if something had been in the way of an average
  obtain ⟨configs', hi', hblocker, -, -⟩ := result_collect_eq_ok_iff.mp hcollect
  cases hi.symm.trans hi'
  rw [(warnings_collectUnder_of_ok a settings hi schedule).2 (.inr ⟨report, hreport⟩),
    allSkipWarnings, sum_map_coe,
    List.flatMap_congr fun m hm => Answers.skipWarnings_of_unblocked (hblocker m hm)]
  exact Multiset.coe_eq_coe.mpr (LatencyMetric.perm_twice a.leftOut configs)

end Report

end MapMetrics
