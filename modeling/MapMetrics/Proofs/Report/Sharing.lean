import MapMetrics.Proofs.Cluster.Sharing
import MapMetrics.Proofs.Report.Failing
import MapMetrics.Proofs.Report.Readings

/-!
# Reports of shared clusters

A cycle makes many reads, and others may change the cluster between any two of them. Still, its
report is one of what it has read: it counts the configurations that it has found, each once, and
averages the counters that it has fetched for them, whatever becomes of the maps in the meantime. A
map that vanishes after it has been found is counted, and its counters are left out. What a cycle
reads of a map that nobody else touches is the map as it is.
-/

namespace MapMetrics

variable {transcript : List Exchange} {events : List Event}

/-- An orderly lookup finds a configuration or none, and does not fail. -/
theorem follows_liveConfig {name : String} {result : Except Raised (Option MapConfig)}
    (h : (liveConfig name).Follows transcript events result) (ho : ∀ e ∈ transcript, e.Orderly) :
    ∃ answer, transcript = [.config name answer] ∧
      result = .ok (Exchange.found? (.config name answer)) := by
  unfold liveConfig Query.lookupConfig at h
  cases h with
  | @config _ _ answer rest _ _ h =>
    rcases (List.forall_mem_cons.mp ho).1 with ⟨found, rfl, -⟩ | ⟨gone, message, rfl⟩
    · cases found with
      | none =>
        cases h with
        | note h => cases h; exact ⟨_, rfl, rfl⟩
      | some config => cases h; exact ⟨_, rfl, rfl⟩
    · cases h with
      | note h => cases h; exact ⟨_, rfl, rfl⟩

/-- The configurations that lookups find are those of the transcript. -/
theorem follows_liveConfigs {names : List String} {result : Except Raised (List MapConfig)}
    (h : (liveConfigs names).Follows transcript events result) (ho : ∀ e ∈ transcript, e.Orderly) :
    ∃ lookups : List (String × Except Failure (Option MapConfig)),
      transcript = lookups.map (fun l => .config l.1 l.2) ∧ lookups.map (·.1) = names ∧
      result = .ok (transcript.filterMap Exchange.found?) := by
  induction names generalizing transcript events result with
  | nil =>
    cases h
    exact ⟨[], rfl, rfl, rfl⟩
  | cons name rest ih =>
    rcases Query.Follows.of_bind h with ⟨r, hf, rfl⟩ | ⟨found, t, u, es, fs, hf, hrest, rfl, rfl⟩
    · obtain ⟨answer, -, hr⟩ := follows_liveConfig hf ho
      cases hr
    · obtain ⟨ht, hu⟩ := List.forall_mem_append.mp ho
      obtain ⟨answer, rfl, hfound⟩ := follows_liveConfig hf ht
      cases hfound
      rcases Query.Follows.of_bind hrest with
        ⟨r, hl, rfl⟩ | ⟨others, v, w, fs, gs, hl, hend, rfl, rfl⟩
      · obtain ⟨lookups, -, -, hr⟩ := ih hl hu
        cases hr
      · obtain ⟨hv, -⟩ := List.forall_mem_append.mp hu
        obtain ⟨lookups, rfl, hnames, hothers⟩ := ih hl hv
        cases hothers
        cases hend
        refine ⟨(name, answer) :: lookups, by simp, congrArg (name :: ·) hnames, ?_⟩
        cases hfound : Exchange.found? (.config name answer) <;> simp [hfound]

/-- An index holds the configurations that are found under the enumerated names. -/
theorem follows_configIndex {service : String} {result : Except Raised (List MapConfig)}
    (h : (configIndex service).Follows transcript events result)
    (ho : ∀ e ∈ transcript, e.Orderly) :
    ∃ (infos : List ObjectInfo) (lookups : List (String × Except Failure (Option MapConfig))),
      transcript = .objects (.ok infos) :: lookups.map (fun l => .config l.1 l.2) ∧
      lookups.map (·.1) = ObjectInfo.namesUnder service infos ∧
      result = .ok ((lookups.map fun l => .config l.1 l.2).filterMap Exchange.found?) := by
  unfold configIndex Query.allObjects at h
  cases h with
  | @objects _ answer rest _ _ h =>
    obtain ⟨⟨infos, rfl, -⟩, hrest⟩ := List.forall_mem_cons.mp ho
    change Query.Follows (liveConfigs (ObjectInfo.namesUnder service infos) >>= _) _ _ _ at h
    rcases h.of_bind with ⟨r, hl, rfl⟩ | ⟨configs, t, u, es, fs, hl, hend, rfl, rfl⟩
    · obtain ⟨lookups, -, -, hr⟩ := follows_liveConfigs hl hrest
      cases hr
    · obtain ⟨ht, -⟩ := List.forall_mem_append.mp hrest
      obtain ⟨lookups, rfl, hnames, hfound⟩ := follows_liveConfigs hl ht
      cases hfound
      cases hend with
      | note hend =>
        cases hend
        exact ⟨infos, lookups, by rw [List.append_nil], hnames, rfl⟩

namespace Report

/-- Orderly counters are read to the end, once for each average that is over their map. -/
theorem follows_averagesUnder_of_orderly {schedule : List Nat} {settings : Settings}
    (hisolate : settings.isolateStatsFailures = true) {configs : List MapConfig}
    {result : Except Raised (List Int)}
    (h : (averagesUnder schedule settings configs).Follows transcript events result)
    (ho : ∀ e ∈ transcript, e.Orderly) :
    ∃ readings : LatencyMetric → List Reading,
      (∀ m ∈ LatencyMetric.catalog, m.ReadFor configs (readings m)) ∧
      transcript.Perm (LatencyMetric.catalog.flatMap fun m =>
        (readings m).map fun r => .stats r.1 r.2) ∧
      result = .ok (LatencyMetric.catalog.map fun m => (m.totalsOf (readings m)).average) := by
  rcases follows_averagesUnder h with hread | ⟨⟨name, answer, hmem, hborne⟩, -⟩
  · exact hread
  · have horderly : Reading.Borne true (name, answer) := ho _ hmem
    exact absurd (hisolate ▸ horderly) hborne

/-- Under every schedule a cycle enumerates the objects, looks up each name of the service once, and
reads the counters of the configurations that are found. It counts these configurations, averages
these counters, and fails only if an average cannot be written. -/
theorem follows_collectUnder {schedule : List Nat} {settings : Settings}
    (hisolate : settings.isolateStatsFailures = true) {result : Except Raised Report}
    (h : (collectUnder schedule settings).Follows transcript events result)
    (ho : ∀ e ∈ transcript, e.Orderly) :
    ∃ (infos : List ObjectInfo) (lookups : List (String × Except Failure (Option MapConfig)))
      (readings : LatencyMetric → List Reading) (reads : List Exchange),
      transcript = .objects (.ok infos) :: (lookups.map fun l => .config l.1 l.2) ++ reads ∧
      lookups.map (·.1) = ObjectInfo.namesUnder settings.mapServiceName infos ∧
      reads.Perm (LatencyMetric.catalog.flatMap fun m =>
        (readings m).map fun r => .stats r.1 r.2) ∧
      let found := (lookups.map fun l => Exchange.config l.1 l.2).filterMap Exchange.found?
      let average := fun m : LatencyMetric => (m.totalsOf (readings m)).average
      (∀ m ∈ LatencyMetric.catalog, m.ReadFor found (readings m)) ∧
      result =
        if LatencyMetric.catalog.all fun m => Number.isWritable (average m) then
          .ok (ofIndex settings.keyStyle found average)
        else .error (.ofMishap (.value (Number.tooManyDigits none))) := by
  unfold collectUnder collectWith at h
  rcases h.of_bind with ⟨r, hi, rfl⟩ | ⟨configs, t, u, es, fs, hi, hrest, rfl, rfl⟩
  · obtain ⟨_, attempted, hindex, hok⟩ := follows_part hi
    obtain ⟨infos, lookups, -, -, hr⟩ := follows_configIndex hindex ho
    cases (hok _).mp hr
  · obtain ⟨ht, hu⟩ := List.forall_mem_append.mp ho
    obtain ⟨_, attempted, hindex, hok⟩ := follows_part hi
    obtain ⟨infos, lookups, rfl, hnames, hr⟩ := follows_configIndex hindex ht
    cases (hok _).mp hr
    rcases hrest.of_bind with ⟨r, ha, rfl⟩ | ⟨found, v, w, fs, gs, ha, hend, rfl, rfl⟩
    · obtain ⟨_, attempted, haverages, hok⟩ := follows_part ha
      obtain ⟨readings, -, -, hr⟩ := follows_averagesUnder_of_orderly hisolate haverages hu
      cases (hok _).mp hr
    · obtain ⟨_, attempted, haverages, hok⟩ := follows_part ha
      obtain ⟨readings, hreadings, hreads, hr⟩ :=
        follows_averagesUnder_of_orderly hisolate haverages (List.forall_mem_append.mp hu).1
      cases (hok _).mp hr
      have hentries := entries_catalog settings.keyStyle fun m => (m.totalsOf (readings m)).average
      by_cases hw : (LatencyMetric.catalog.all fun m =>
          Number.isWritable (m.totalsOf (readings m)).average) = true
      · rw [if_pos hw] at hentries
        rw [hentries] at hend
        cases hend with
        | note hend =>
          cases hend
          exact ⟨infos, lookups, readings, v, by rw [List.append_nil], hnames, hreads, hreadings,
            (if_pos hw).symm⟩
      · rw [if_neg hw] at hentries
        rw [hentries] at hend
        cases hend
        exact ⟨infos, lookups, readings, v, by rw [List.append_nil], hnames, hreads, hreadings,
          (if_neg hw).symm⟩

/-! ## What a transcript tells -/

private theorem filterMap_found?_of_perm {reads : List Exchange} {ms : List LatencyMetric}
    {readings : LatencyMetric → List Reading}
    (h : reads.Perm (ms.flatMap fun m => (readings m).map fun r => .stats r.1 r.2)) :
    reads.filterMap Exchange.found? = [] := by
  refine List.filterMap_eq_nil_iff.mpr fun e he => ?_
  obtain ⟨m, -, hm⟩ := List.mem_flatMap.mp (h.mem_iff.mp he)
  obtain ⟨r, -, rfl⟩ := List.mem_map.mp hm
  rfl

private theorem filterMap_reading?_of_perm {reads : List Exchange} {ms : List LatencyMetric}
    {readings : LatencyMetric → List Reading}
    (h : reads.Perm (ms.flatMap fun m => (readings m).map fun r => .stats r.1 r.2)) :
    (reads.filterMap Exchange.reading?).Perm (ms.flatMap readings) := by
  refine (h.filterMap Exchange.reading?).trans (.of_eq ?_)
  rw [List.filterMap_flatMap]
  exact List.flatMap_congr fun m _ => filterMap_reading? (readings m)

private theorem filterMap_reading?_lookups
    (lookups : List (String × Except Failure (Option MapConfig))) :
    (lookups.map fun l => Exchange.config l.1 l.2).filterMap Exchange.reading? = [] := by
  refine List.filterMap_eq_nil_iff.mpr fun e he => ?_
  obtain ⟨l, -, rfl⟩ := List.mem_map.mp he
  rfl

/-- Orderly lookups find configurations in the order of the names that are looked up. -/
private theorem names_found_sublist {lookups : List (String × Except Failure (Option MapConfig))}
    (ho : ∀ l ∈ lookups, (Exchange.config l.1 l.2).Orderly) :
    (((lookups.map fun l => Exchange.config l.1 l.2).filterMap Exchange.found?).map
      (·.name)).Sublist (lookups.map (·.1)) := by
  induction lookups with
  | nil => exact .slnil
  | cons l rest ih =>
    obtain ⟨hl, hrest⟩ := List.forall_mem_cons.mp ho
    rw [List.map_cons, List.map_cons]
    cases hf : Exchange.found? (.config l.1 l.2) with
    | none =>
      rw [List.filterMap_cons_none hf]
      exact (ih hrest).cons l.1
    | some config =>
      have hname : config.name = l.1 := by
        rcases hl with ⟨found, hfound, hnamed⟩ | ⟨gone, message, hgone⟩
        · rw [hfound] at hf
          exact hnamed config hf
        · rw [hgone] at hf
          cases hf
      rw [List.filterMap_cons_some hf, List.map_cons, hname]
      exact (ih hrest).cons_cons l.1

/-- Where no two items have the same key, only the item itself has its key. -/
private theorem filter_key_eq {α : Type} {key : α → String} {items : List α}
    (h : (items.map key).Nodup) {x : α} (hx : x ∈ items) :
    items.filter (fun y => key y = key x) = [x] := by
  induction items with
  | nil => cases hx
  | cons y rest ih =>
    obtain ⟨hy, hrest⟩ := List.nodup_cons.mp h
    rcases List.mem_cons.mp hx with rfl | hx
    · rw [List.filter_cons_of_pos (by simp), List.filter_eq_nil_iff.mpr]
      intro z hz
      rw [decide_eq_true_iff]
      exact fun he => hy (he ▸ List.mem_map_of_mem hz)
    · have hne : key y ≠ key x := fun he => hy (he ▸ List.mem_map_of_mem hx)
      rw [List.filter_cons_of_neg (by simpa using hne), ih hrest hx]

/-- What a cycle finds has distinct names, and is looked up under all names of the service that are
enumerated; its counters are read once for each average; and this is what it reports. -/
theorem found_of_follows {schedule : List Nat} {settings : Settings}
    (hisolate : settings.isolateStatsFailures = true) {result : Except Raised Report}
    (h : (collectUnder schedule settings).Follows transcript events result)
    (ho : ∀ e ∈ transcript, e.Orderly) :
    let found := transcript.filterMap Exchange.found?
    (found.map (·.name)).Nodup ∧
    (∃ infos, .objects (.ok infos) ∈ transcript ∧
      ∀ name ∈ ObjectInfo.namesUnder settings.mapServiceName infos,
        ∃ answer, .config name answer ∈ transcript) ∧
    ∃ readings : LatencyMetric → List Reading,
      (transcript.filterMap Exchange.reading?).Perm (LatencyMetric.catalog.flatMap readings) ∧
      (∀ m ∈ LatencyMetric.catalog, m.ReadFor found (readings m)) ∧
      let average := fun m : LatencyMetric => (m.totalsOf (readings m)).average
      result =
        if LatencyMetric.catalog.all fun m => Number.isWritable (average m) then
          .ok (ofIndex settings.keyStyle found average)
        else .error (.ofMishap (.value (Number.tooManyDigits none))) := by
  intro found
  obtain ⟨infos, lookups, readings, reads, htranscript, hnames, hreads, hreadings, hresult⟩ :=
    follows_collectUnder hisolate h ho
  have hobjects : .objects (.ok infos) ∈ transcript := by
    rw [htranscript]
    exact List.mem_append_left _ List.mem_cons_self
  have hlookup (l) (hl : l ∈ lookups) : .config l.1 l.2 ∈ transcript := by
    rw [htranscript]
    exact List.mem_append_left _ (List.mem_cons_of_mem _ (List.mem_map.mpr ⟨l, hl, rfl⟩))
  have hfound : found = (lookups.map fun l => Exchange.config l.1 l.2).filterMap
      Exchange.found? := by
    change transcript.filterMap Exchange.found? = _
    rw [htranscript, List.filterMap_append, filterMap_found?_of_perm hreads, List.append_nil]
    rfl
  have hperm : (transcript.filterMap Exchange.reading?).Perm
      (LatencyMetric.catalog.flatMap readings) := by
    rw [htranscript, List.filterMap_append, List.filterMap_cons_none rfl,
      filterMap_reading?_lookups]
    exact filterMap_reading?_of_perm hreads
  have hnodup : (found.map (·.name)).Nodup := by
    obtain ⟨_, hinfos, hdistinct⟩ := ho _ hobjects
    cases hinfos
    have hsublist := names_found_sublist fun l hl => ho _ (hlookup l hl)
    rw [hnames, ← hfound] at hsublist
    exact hdistinct.sublist (hsublist.trans (List.filter_sublist.map _))
  rw [← hfound] at hreadings hresult
  refine ⟨hnodup, ⟨infos, hobjects, fun name hn => ?_⟩, readings, hperm, hreadings, hresult⟩
  obtain ⟨⟨_, answer⟩, hl, rfl⟩ := List.mem_map.mp (hnames ▸ hn)
  exact ⟨answer, hlookup _ hl⟩

/-- Among readings for distinct configurations, a configuration that is selected has one, and one
that is not selected has none. -/
theorem filter_readings {m : LatencyMetric} {found : List MapConfig} {readings : List Reading}
    (h : m.ReadFor found readings) (hnodup : (found.map (·.name)).Nodup) {config : MapConfig}
    (hc : config ∈ found) {answer : Except Failure MapStats}
    (hanswer : ∀ r ∈ readings, r.1 = config.name → r.2 = answer) :
    readings.filter (fun r => r.1 = config.name) =
      if m.selects config then [(config.name, answer)] else [] := by
  by_cases hs : m.selects config = true
  · have hmem : config.name ∈ readings.map (·.1) := by
      rw [h]
      exact List.mem_map_of_mem (List.mem_filter.mpr ⟨hc, hs⟩)
    obtain ⟨⟨name, reading⟩, hr, rfl⟩ := List.mem_map.mp hmem
    have hkeys : (readings.map (·.1)).Nodup := by
      rw [h]
      exact hnodup.sublist (List.filter_sublist.map _)
    have hreading : reading = answer := hanswer _ hr rfl
    rw [if_pos hs, filter_key_eq hkeys hr, hreading]
  · rw [if_neg hs, List.filter_eq_nil_iff]
    intro r hr hname
    have hmem : r.1 ∈ (found.filter m.selects).map (·.name) := h ▸ List.mem_map_of_mem hr
    obtain ⟨other, hother, hsame⟩ := List.mem_map.mp hmem
    obtain ⟨hfound, hselected⟩ := List.mem_filter.mp hother
    have heq : other = config :=
      List.inj_on_of_nodup_map hnodup hfound hc (hsame.trans (of_decide_eq_true hname))
    exact hs (heq ▸ hselected)

/-! ## Cycles over a shared cluster -/

/-- A cycle that isolates failures, over a cluster on which others work while no failures are
injected, under every schedule: the configurations that it finds have distinct names; each is
counted, and its counters are read once for each average that selects it, whatever happens to the
map in the meantime. The cycle gives the report of what it has found and read, unless an average
cannot be written. A map that nobody else touches is found once, as it is, and the counters that are
read for each of its two averages are its own. -/
theorem collect_shared (service : String) (history : List Operation)
    (pending : List (List Operation)) (settings : Settings) (schedule : List Nat)
    (hstart : (Cluster.after service history).Unfailing)
    (hpending : ∀ op ∈ pending.flatten, op.injected? = none)
    (hisolate : settings.isolateStatsFailures = true) :
    let c := Cluster.after service history
    let cycle := collectUnder schedule settings
    let transcript := cycle.transcript SharedCluster.view ⟨c, pending⟩
    let outcome := (cycle.run SharedCluster.view ⟨c, pending⟩).1.result
    let found := transcript.filterMap Exchange.found?
    (found.map (·.name)).Nodup ∧
    ∃ readings : LatencyMetric → List Reading,
      (transcript.filterMap Exchange.reading?).Perm (LatencyMetric.catalog.flatMap readings) ∧
      (∀ m ∈ LatencyMetric.catalog, m.ReadFor found (readings m)) ∧
      (let average := fun m : LatencyMetric => (m.totalsOf (readings m)).average
      outcome =
        if LatencyMetric.catalog.all fun m => Number.isWritable (average m) then
          .ok (ofIndex settings.keyStyle found average)
        else .error (.ofMishap (.value (Number.tooManyDigits none)))) ∧
      (∀ report, outcome = .ok report →
        report.map (·.1) = keys settings.keyStyle ∧ report.length = 13) ∧
      ∀ config, SharedCluster.Untouched c pending settings.mapServiceName config →
        found.filter (fun other => other.name = config.name) = [config] ∧
        (LatencyMetric.catalog.filter fun m => m.selects config).length = 2 ∧
        ∀ m ∈ LatencyMetric.catalog, (readings m).filter (fun r => r.1 = config.name) =
          if m.selects config then [(config.name, .ok (c.countersOf config.name))] else [] := by
  intro c cycle transcript outcome found
  have horderly (e : Exchange) (he : e ∈ transcript) : e.Orderly :=
    SharedCluster.orderly_of_mem_transcript hstart hpending he
  have hfollows : cycle.Follows transcript _ outcome :=
    Query.follows_transcript SharedCluster.view cycle ⟨c, pending⟩
  obtain ⟨hnodup, ⟨infos, hobjects, hlookup⟩, readings, hperm, hreadings, houtcome⟩ :=
    found_of_follows hisolate hfollows horderly
  refine ⟨hnodup, readings, hperm, hreadings, houtcome, ?_, ?_⟩
  · intro report hreport
    have hkeys : report.map (·.1) = keys settings.keyStyle := by
      rw [houtcome] at hreport
      split at hreport
      · rw [← Except.ok.inj hreport, keys_ofIndex]
      · cases hreport
    exact ⟨hkeys, by rw [← length_keys settings.keyStyle, ← hkeys, List.length_map]⟩
  · intro config hconfig
    obtain ⟨answer, hl⟩ := hlookup _ (hconfig.mem_namesUnder hstart hpending hobjects)
    have hmem : config ∈ found := List.mem_filterMap.mpr ⟨_, hl, hconfig.found?_eq hl⟩
    refine ⟨filter_key_eq hnodup hmem, LatencyMetric.length_filter_selects config, fun m hm => ?_⟩
    refine filter_readings (hreadings m hm) hnodup hmem fun r hr hname => ?_
    have hread : r ∈ transcript.filterMap Exchange.reading? :=
      hperm.mem_iff.mpr (List.mem_flatMap.mpr ⟨m, hm, hr⟩)
    obtain ⟨e, he, hread⟩ := List.mem_filterMap.mp hread
    cases e with
    | stats name answer =>
      cases hread
      cases hname
      exact hconfig.stats_eq hstart he
    | objects answer => cases hread
    | config name answer => cases hread

/-- A map in a store, with its counters, and a map beside the stores. -/
def market : List Operation := [
  .addMap { name := "orders", mapStore := { enabled := true } }
    (some { totalPutLatency := 105, putOperationCount := 10 }),
  .addMap { name := "carts" } none]

/-- Others give new counters to the map beside the stores before it is looked up, remove it once it
has been found, and register it again in a store. -/
def bustle : List (List Operation) := [
  [.addObject "jobs" "hz:impl:queueService"],
  [.updateStats "carts" { totalGetLatency := 7, getOperationCount := 1 }],
  [],
  [.remove "carts"],
  [],
  [.addMap { name := "carts", mapStore := { enabled := true } } none]]

/-- In spite of the bustle there is a complete report, and the map in the store is found once. -/
theorem collect_shared_bustle :
    let c := Cluster.after defaultMapService market
    let cycle := collectUnder [1, 0, 3] { parallelAggregation := true }
    let orders : MapConfig := { name := "orders", mapStore := { enabled := true } }
    c.Unfailing ∧ (∀ op ∈ bustle.flatten, op.injected? = none) ∧
      SharedCluster.Untouched c bustle defaultMapService orders ∧
      (∃ report, (cycle.run SharedCluster.view ⟨c, bustle⟩).1.result = .ok report ∧
        report.length = 13) ∧
      ((cycle.transcript SharedCluster.view ⟨c, bustle⟩).filterMap Exchange.found?).filter
        (fun other => other.name = "orders") = [orders] := by
  have hstart : (Cluster.after defaultMapService market).Unfailing := ⟨rfl, rfl⟩
  have hpending : ∀ op ∈ bustle.flatten, op.injected? = none := by
    simp [bustle, Operation.injected?]
  have horders : SharedCluster.Untouched (Cluster.after defaultMapService market) bustle
      defaultMapService { name := "orders", mapStore := { enabled := true } } :=
    ⟨by simp [bustle, Operation.target?], by decide +kernel, rfl⟩
  obtain ⟨-, _, -, -, -, hkeys, huntouched⟩ := collect_shared defaultMapService market bustle
    { parallelAggregation := true } [1, 0, 3] hstart hpending rfl
  have hreport : (((collectUnder [1, 0, 3] { parallelAggregation := true }).run SharedCluster.view
      ⟨Cluster.after defaultMapService market, bustle⟩).1.result.toOption).isSome = true := by
    decide +kernel
  obtain ⟨report, hsome⟩ := Option.isSome_iff_exists.mp hreport
  have hok := eq_ok_of_toOption hsome
  exact ⟨hstart, hpending, horders, ⟨report, hok, (hkeys report hok).2⟩, (huntouched _ horders).1⟩

/-- Even without others, a cycle over the vast cluster ends with an error. -/
theorem collect_shared_vast :
    let c := Cluster.after defaultMapService vast
    c.Unfailing ∧ ((collectUnder [] {}).run SharedCluster.view ⟨c, []⟩).1.result =
      .error (.ofMishap (.value (Number.tooManyDigits none))) := by
  intro c
  refine ⟨⟨rfl, rfl⟩, ?_⟩
  rw [Query.run_eq_outcome (SharedCluster.view_gives c), collectUnder_nil]
  exact result_collect_vast

end Report

end MapMetrics
