import MapMetrics.Proofs.Cluster.Contents
import MapMetrics.Proofs.Report.Cycle

/-!
# Reports of loaded snapshots

No failure is injected into a loaded cluster, so that a cycle over it can fail in two ways only. The
names and services of other objects are not looked at before they are enumerated, and one that is no
text ends every cycle; and an average may have too many digits to be written. Nor does loading keep
the names of maps and of other objects apart: a map is indexed only as long as no object of its name
is listed under another service.
-/

namespace MapMetrics

namespace Cluster

/-- Every listed name and every service is read as a text. -/
def Textual (c : Cluster) : Prop :=
  ∀ e ∈ c.objects,
    (∃ name, Field.text e.1 = .valid name) ∧ ∃ service, Field.text e.2 = .valid service

/-- The average over the maps of a partition in the index of a service. -/
def averageOf (c : Cluster) (service : String) (m : LatencyMetric) : Int :=
  (m.sumOver (((c.indexOf service).filter m.selects).map fun config =>
    c.countersOf config.name)).average

/-- Without injected failures, the maps of an index can be read. -/
theorem Unfailing.stats_of_mem_indexOf {c : Cluster} (h : c.Unfailing) (hs : c.Sound)
    {service : String} {config : MapConfig} (hc : config ∈ c.indexOf service) :
    c.answers.stats config.name = .ok (c.countersOf config.name) := by
  have hread := hs.mapStats_of_resolved (hs.mem_indexOf_iff.mp hc).2
  rw [h.stats] at hread
  exact hread

theorem Unfailing.average_indexOf {c : Cluster} (h : c.Unfailing) (hs : c.Sound)
    (service : String) (m : LatencyMetric) :
    c.answers.average m (c.indexOf service) = c.averageOf service m := by
  have hcounters : c.answers.counters ((c.indexOf service).filter m.selects) =
      ((c.indexOf service).filter m.selects).map fun config => c.countersOf config.name := by
    rw [Answers.counters, ← List.filterMap_eq_map]
    refine List.filterMap_congr fun config hc => ?_
    rw [h.stats_of_mem_indexOf hs (List.mem_of_mem_filter hc)]
    rfl
  rw [Answers.average, hcounters, averageOf]

/-- Where the objects are a table, they can be enumerated when all services in it are texts. -/
theorem Directory.textual_iff {c : Cluster} {t : Table Value} (h : c.Directory t) :
    c.Textual ↔ ∀ name v, t.get? name = some v → ∃ service, Field.text v = .valid service := by
  rw [Textual, h.objects]
  constructor
  · intro ht name v hv
    have hmem : (Value.text name, v) ∈ t.listed :=
      List.mem_map.mpr ⟨(name, v), (Table.mem_iff_get? h.distinct).mpr hv, rfl⟩
    exact (ht _ hmem).2
  · intro ht e he
    obtain ⟨⟨name, v⟩, hmem, rfl⟩ := List.mem_map.mp he
    exact ⟨⟨name, Field.text_text name⟩, ht name v ((Table.mem_iff_get? h.distinct).mp hmem)⟩

private theorem objectInfo_ok_or_invalid (name service : Value) :
    (∃ info, objectInfo name service = .ok info) ∨ ∃ first rest,
      objectInfo name service = .error (.mishap (.invalid (Model.title ObjectInfo) first rest)) := by
  rw [objectInfo]
  cases (Model.ofValue (Model.fields [("name", name), ("service_name", service)]) :
      Outcome ObjectInfo) with
  | valid info => exact Or.inl ⟨info, rfl⟩
  | invalid first rest => exact Or.inr ⟨first, rest, rfl⟩

private theorem mapM_objectInfo_ok_or_invalid (objects : List (Value × Value)) :
    (∃ infos, objects.mapM (fun e => objectInfo e.1 e.2) = .ok infos) ∨
      ∃ first rest, objects.mapM (fun e => objectInfo e.1 e.2) =
        .error (.mishap (.invalid (Model.title ObjectInfo) first rest)) := by
  induction objects with
  | nil => exact Or.inl ⟨[], rfl⟩
  | cons e others ih =>
    rw [List.mapM_cons]
    rcases objectInfo_ok_or_invalid e.1 e.2 with ⟨info, he⟩ | ⟨first, rest, he⟩
    · rcases ih with ⟨infos, hi⟩ | ⟨first, rest, hi⟩
      · exact Or.inl ⟨info :: infos, by rw [he, hi]; rfl⟩
      · exact Or.inr ⟨first, rest, by rw [he, hi]; rfl⟩
    · exact Or.inr ⟨first, rest, by rw [he]; rfl⟩

/-- An object without an identity is refused with the problems of its name and service. -/
theorem distributedObjects_of_not_textual {c : Cluster} (h : c.enumerationFailure = none)
    (ht : ¬ c.Textual) : ∃ first rest, c.distributedObjects =
      .error (.mishap (.invalid (Model.title ObjectInfo) first rest)) := by
  have hd : c.distributedObjects = c.objects.mapM fun e => objectInfo e.1 e.2 := by
    rw [distributedObjects, h]
  rw [hd]
  refine (mapM_objectInfo_ok_or_invalid c.objects).resolve_left fun hok => ht ?_
  exact (exists_distributedObjects_iff.mp (hd ▸ hok)).2

end Cluster

/-- A snapshot of maps with nothing but their names, and of other objects with their services. -/
def Snapshot.describing (maps : List String) (objects : List (Value × String)) : Value :=
  Model.fields [
    ("maps", .list (maps.map fun name =>
      Model.fields [("config", Model.fields [("name", .text name)])])),
    ("objects", .list (objects.map fun e =>
      Model.fields [("name", e.1), ("service_name", .text e.2)]))]

/-! ## Cycles -/

namespace Report

/-- A cycle over a loaded snapshot gives a complete report exactly when all names and services in
the cluster are texts and all averages can be written. -/
theorem collect_loaded_iff {document : Value} {service : String} {c : Cluster}
    (h : (Snapshot.toCluster document service).result = .ok c) (settings : Settings) :
    ((∃ report, ((collect settings).run Cluster.view c).1.result = .ok report ∧
        report.map (·.1) = keys settings.keyStyle) ↔
      c.Textual ∧ ∀ m ∈ LatencyMetric.catalog,
        Number.isWritable (c.averageOf settings.mapServiceName m) = true) ∧
    (¬ c.Textual → ∃ first rest, ((collect settings).run Cluster.view c).1.result =
      .error ⟨.mishap (.invalid (Model.title ObjectInfo) first rest), none⟩) := by
  obtain ⟨k, -, rfl⟩ := Snapshot.eq_cluster_of_loaded h
  have hs := k.sound_cluster service
  have hu := k.unfailing_cluster service
  simp only [Query.run_cluster_result]
  refine ⟨⟨?_, ?_⟩, ?_⟩
  · rintro ⟨report, hr, -⟩
    obtain ⟨configs, hi, -, hw, -⟩ := result_collect_eq_ok_iff.mp hr
    obtain ⟨hd, rfl⟩ := Cluster.result_configIndex_eq_ok_iff.mp hi
    refine ⟨(Cluster.exists_distributedObjects_iff.mp hd).2, fun m hm => ?_⟩
    rw [← hu.average_indexOf hs]
    exact hw m hm
  · rintro ⟨ht, hw⟩
    have hd := Cluster.exists_distributedObjects_iff.mpr ⟨hu.enumeration, ht⟩
    refine ⟨_, result_collect_eq_ok_iff.mpr
      ⟨_, Cluster.result_configIndex_eq_ok_iff.mpr ⟨hd, rfl⟩, ?_, ?_, rfl⟩, keys_ofIndex _ _ _⟩
    · intro m _ config hc
      exact Answers.blocker?_eq_none_of_ok (hu.stats_of_mem_indexOf hs hc) m _
    · intro m hm
      rw [hu.average_indexOf hs]
      exact hw m hm
  · intro ht
    obtain ⟨first, rest, hd⟩ := Cluster.distributedObjects_of_not_textual hu.enumeration ht
    refine ⟨first, rest, ?_⟩
    rw [result_collect, Cluster.result_configIndex_of_error hd]
    rfl

/-- A map and a queue can be loaded, and the map is counted. -/
theorem collect_loaded_orders :
    ∃ c, (Snapshot.toCluster
        (Snapshot.describing ["orders"] [(.text "jobs", "hz:impl:queueService")])
        defaultMapService).result = .ok c ∧
      c.Textual ∧ ∃ report, ((collect {}).run Cluster.view c).1.result = .ok report ∧
        report.map (·.1) = keys .descriptive := by
  let report : Report :=
    (keys .descriptive).zip (List.replicate 9 "0" ++ List.replicate 4 "-1")
  have hkeys : report.map (·.1) = keys .descriptive := by decide
  have hreport : ((Snapshot.toCluster
      (Snapshot.describing ["orders"] [(.text "jobs", "hz:impl:queueService")])
      defaultMapService).result.toOption.bind fun c =>
        ((collect {}).run Cluster.view c).1.result.toOption) = some report := by
    decide +kernel
  obtain ⟨c, hc, hr⟩ := Option.bind_eq_some_iff.mp hreport
  have hloaded := eq_ok_of_toOption hc
  have hok := eq_ok_of_toOption hr
  obtain ⟨htextual, -⟩ := (collect_loaded_iff hloaded {}).1.mp ⟨report, hok, hkeys⟩
  exact ⟨c, hloaded, htextual, report, hok, hkeys⟩

/-- A queue with a number for its name can be loaded, and ends every cycle. -/
theorem collect_number_as_name : ∃ c,
    (Snapshot.toCluster (Snapshot.describing [] [(.int 7, "hz:impl:queueService")])
        defaultMapService).result = .ok c ∧
      ∃ first rest, ((collect {}).run Cluster.view c).1.result =
        .error ⟨.mishap (.invalid "DistributedObjectInfo" first rest), none⟩ := by
  let c : Cluster :=
    { mapService := defaultMapService, objects := [(.int 7, .text "hz:impl:queueService")] }
  have hloaded : (Snapshot.toCluster (Snapshot.describing [] [(.int 7, "hz:impl:queueService")])
      defaultMapService).result = .ok c := rfl
  exact ⟨c, hloaded, _, _, rfl⟩

end Report

/-! ## Indexes -/

namespace Snapshot

namespace Contents

variable {k : Contents} (service : String)

/-- The cluster can be enumerated when the service of every last object of a name is a text. -/
theorem textual_cluster_iff (hnames : ∀ e ∈ k.objects, ∃ name, e.1 = .text name) :
    (k.cluster service).Textual ↔
      ∀ name v, k.lastService? name = some v → ∃ s, Field.text v = .valid s := by
  obtain ⟨-, t, ht, hget⟩ := k.directory_cluster service hnames
  rw [ht.textual_iff]
  constructor
  · intro h name v hv
    exact h name v (by rw [hget, hv]; rfl)
  · intro h name v hv
    rw [hget] at hv
    cases hl : k.lastService? name with
    | some w =>
      rw [hl, Option.some_or] at hv
      cases hv
      exact h name v hl
    | none =>
      rw [hl, Option.none_or, Option.map_eq_some_iff] at hv
      obtain ⟨config, -, rfl⟩ := hv
      exact ⟨service, Field.text_text service⟩

/-- There is an index when the service of every last object of a name is a text. -/
theorem result_configIndex_cluster_iff (hnames : ∀ e ∈ k.objects, ∃ name, e.1 = .text name)
    {configs : List MapConfig} :
    ((configIndex service).run Cluster.view (k.cluster service)).1.result = .ok configs ↔
      (∀ name v, k.lastService? name = some v → ∃ s, Field.text v = .valid s) ∧
        (k.cluster service).indexOf service = configs := by
  rw [Query.run_cluster_result, Cluster.result_configIndex_eq_ok_iff,
    Cluster.exists_distributedObjects_iff, ← Cluster.Textual, textual_cluster_iff service hnames,
    and_iff_right (k.unfailing_cluster service).enumeration]

/-- The index holds the last map of every name whose last object has no other service. -/
theorem mem_indexOf_cluster_iff (hnames : ∀ e ∈ k.objects, ∃ name, e.1 = .text name)
    (ht : ∀ name v, k.lastService? name = some v → ∃ s, Field.text v = .valid s)
    {config : MapConfig} :
    config ∈ (k.cluster service).indexOf service ↔ k.lastMap? config.name = some config ∧
      ∀ v, k.lastService? config.name = some v → Field.text v = .valid service := by
  obtain ⟨hconfigs, t, hdir, hget⟩ := k.directory_cluster service hnames
  have hd := Cluster.exists_distributedObjects_iff.mpr
    ⟨(k.unfailing_cluster service).enumeration, (textual_cluster_iff service hnames).mpr ht⟩
  rw [(k.sound_cluster service).mem_indexOf_iff, hdir.mem_namesOf_iff hd,
    Cluster.resolved?_eq_some_iff, hdir.lists_iff, hconfigs]
  constructor
  · rintro ⟨⟨v, hv, hs⟩, -, hm⟩
    refine ⟨hm, fun w hw => ?_⟩
    rw [hget, hw, Option.some_or, Option.some.injEq] at hv
    exact hv ▸ hs
  · rintro ⟨hm, hs⟩
    have hfound : ∃ v, t.get? config.name = some v ∧ Field.text v = .valid service := by
      rw [hget, hm]
      cases hl : k.lastService? config.name with
      | some v => exact ⟨v, rfl, hs v hl⟩
      | none => exact ⟨.text service, rfl, Field.text_text service⟩
    refine ⟨hfound, ?_, hm⟩
    obtain ⟨v, hv, -⟩ := hfound
    rw [hv]
    rfl

/-- The index holds all last maps when no last object of their names has another service. -/
theorem indexOf_cluster_all_iff (hnames : ∀ e ∈ k.objects, ∃ name, e.1 = .text name)
    (ht : ∀ name v, k.lastService? name = some v → ∃ s, Field.text v = .valid s) :
    (∀ config, config ∈ (k.cluster service).indexOf service ↔
        k.lastMap? config.name = some config) ↔
      ∀ name v s, k.lastService? name = some v → Field.text v = .valid s →
        (k.lastMap? name).isSome → s = service := by
  obtain ⟨hconfigs, -⟩ := k.directory_cluster service hnames
  constructor
  · intro hall name v s hv hs hm
    obtain ⟨config, hm⟩ := Option.isSome_iff_exists.mp hm
    obtain rfl : config.name = name :=
      (k.sound_cluster service).named ((hconfigs name).trans hm)
    have hmem := (hall config).mpr hm
    have hservice := ((mem_indexOf_cluster_iff service hnames ht).mp hmem).2 v hv
    exact Outcome.valid.inj (hs.symm.trans hservice)
  · intro hall config
    rw [mem_indexOf_cluster_iff service hnames ht, and_iff_left_iff_imp]
    intro hm v hv
    obtain ⟨s, hs⟩ := ht _ v hv
    rw [hs, hall _ v s hv hs (by rw [hm]; rfl)]

end Contents

/-- The index of a loaded snapshot whose other objects are named by texts. It is there exactly when
the service of every last object of a name is a text; it holds, once for each name, the last map of
that name unless the last object of the name has another service; and it holds all maps exactly when
no object of their names has. The counts of a report are those of the index. -/
theorem configIndex_loaded {document : Value} {service : String} {c : Cluster} {k : Contents}
    (h : (toCluster document service).result = .ok c) (hk : contents document = .ok k)
    (hnames : ∀ e ∈ k.objects, ∃ name, e.1 = .text name) :
    let index := ((configIndex service).run Cluster.view c).1.result
    ((∃ configs, index = .ok configs) ↔
      ∀ name v, k.lastService? name = some v → ∃ s, Field.text v = .valid s) ∧
    (∀ configs, index = .ok configs → (configs.map (·.name)).Nodup ∧
      ∀ config, config ∈ configs ↔ k.lastMap? config.name = some config ∧
        ∀ v, k.lastService? config.name = some v → Field.text v = .valid service) ∧
    ((∃ configs, index = .ok configs ∧ (configs.map (·.name)).Nodup ∧
        ∀ config, config ∈ configs ↔ k.lastMap? config.name = some config) ↔
      ∀ name v, k.lastService? name = some v →
        ∃ s, Field.text v = .valid s ∧ ((k.lastMap? name).isSome → s = service)) ∧
    ∀ settings report, settings.mapServiceName = service →
      ((Report.collect settings).run Cluster.view c).1.result = .ok report →
        ∃ configs, index = .ok configs ∧
          report.take Trait.catalog.length = Report.counts settings.keyStyle configs := by
  obtain ⟨k', hk', rfl⟩ := eq_cluster_of_loaded h
  obtain rfl : k' = k := Except.ok.inj (hk'.symm.trans hk)
  obtain ⟨-, t, hdir, -⟩ := k'.directory_cluster service hnames
  have hnodup := (k'.sound_cluster service).nodup_indexOf hdir service
  intro index
  have hindex {configs : List MapConfig} : index = .ok configs ↔ _ :=
    Contents.result_configIndex_cluster_iff service hnames
  refine ⟨?_, ?_, ?_, ?_⟩
  · exact ⟨fun ⟨configs, hi⟩ => (hindex.mp hi).1, fun ht => ⟨_, hindex.mpr ⟨ht, rfl⟩⟩⟩
  · intro configs hi
    obtain ⟨ht, rfl⟩ := hindex.mp hi
    exact ⟨hnodup, fun config => Contents.mem_indexOf_cluster_iff service hnames ht⟩
  · constructor
    · rintro ⟨configs, hi, -, hall⟩ name v hv
      obtain ⟨ht, rfl⟩ := hindex.mp hi
      obtain ⟨s, hs⟩ := ht name v hv
      have hsame := (Contents.indexOf_cluster_all_iff service hnames ht).mp hall
      exact ⟨s, hs, hsame name v s hv hs⟩
    · intro hall
      have ht := fun name v hv => (hall name v hv).imp fun s h => h.1
      refine ⟨_, hindex.mpr ⟨ht, rfl⟩, hnodup, ?_⟩
      rw [Contents.indexOf_cluster_all_iff service hnames ht]
      intro name v s hv hs hm
      obtain ⟨s', hs', hservice⟩ := hall name v hv
      rw [← hservice hm]
      exact Outcome.valid.inj (hs.symm.trans hs')
  · intro settings report hservice hr
    rw [Query.run_cluster_result, Report.result_collect_eq_ok_iff, hservice] at hr
    obtain ⟨configs, hi, -, -, rfl⟩ := hr
    exact ⟨configs, (Query.run_cluster_result _ _).trans hi, List.take_left' rfl⟩

/-- A queue beside a map leaves the map in the index. -/
theorem configIndex_beside_queue :
    ∃ c configs, (toCluster (describing ["orders"] [(.text "jobs", "hz:impl:queueService")])
        defaultMapService).result = .ok c ∧
      ((configIndex defaultMapService).run Cluster.view c).1.result = .ok configs ∧
      ({ name := "orders" } : MapConfig) ∈ configs := by
  let k : Contents :=
    ⟨[({ name := "orders" }, {})], [(.text "jobs", .text "hz:impl:queueService")]⟩
  have hk : contents (describing ["orders"] [(.text "jobs", "hz:impl:queueService")]) = .ok k := rfl
  have hloaded : (toCluster (describing ["orders"] [(.text "jobs", "hz:impl:queueService")])
      defaultMapService).result = .ok (k.cluster defaultMapService) := rfl
  have hindex : ((configIndex defaultMapService).run Cluster.view
      (k.cluster defaultMapService)).1.result = .ok [{ name := "orders" }] :=
    eq_ok_of_toOption (by decide +kernel)
  have hnames : ∀ e ∈ k.objects, ∃ name, e.1 = .text name := by
    intro e he
    rw [List.mem_singleton.mp he]
    exact ⟨"jobs", rfl⟩
  have hmap : k.lastMap? "orders" = some { name := "orders" } := rfl
  have hqueue : k.lastService? "orders" = none := rfl
  obtain ⟨-, hmembers, -⟩ := configIndex_loaded hloaded hk hnames
  obtain ⟨-, hmem⟩ := hmembers [{ name := "orders" }] hindex
  have horders := (hmem { name := "orders" }).mpr ⟨hmap, fun v hv => by
    rw [hqueue] at hv
    cases hv⟩
  exact ⟨k.cluster defaultMapService, [{ name := "orders" }], hloaded, hindex, horders⟩

/-- A queue with the name of a map hides the map from the index. -/
theorem configIndex_behind_queue :
    ∃ c k, (toCluster (describing ["orders"] [(.text "orders", "hz:impl:queueService")])
        defaultMapService).result = .ok c ∧
      contents (describing ["orders"] [(.text "orders", "hz:impl:queueService")]) = .ok k ∧
      k.lastMap? "orders" = some { name := "orders" } ∧
      ((configIndex defaultMapService).run Cluster.view c).1.result = .ok [] := by
  let k : Contents :=
    ⟨[({ name := "orders" }, {})], [(.text "orders", .text "hz:impl:queueService")]⟩
  exact ⟨k.cluster defaultMapService, k, rfl, rfl, rfl, rfl⟩

end Snapshot

end MapMetrics
