import MapMetrics.Proofs.Cluster.History
import MapMetrics.Proofs.Report.Index

/-!
# The index of a cluster

In a cluster a lookup fails only when the map has gone, so that there is an index whenever there is
an enumeration. It holds the configurations that resolve, each under its own name, and none of them
twice when the objects are a table.
-/

namespace MapMetrics.Cluster

/-- The configuration of an object, when it resolves. -/
def resolved? (c : Cluster) (name : String) : Option MapConfig :=
  match c.mapConfig name with
  | .ok found => found
  | .error _ => none

/-- The counters that a map was given last. -/
def countersOf (c : Cluster) (name : String) : MapStats :=
  (c.stats.get? name).getD {}

/-- The names that are enumerated under a service; none when enumeration fails. -/
def namesOf (c : Cluster) (service : String) : List String :=
  match c.distributedObjects with
  | .ok infos => ObjectInfo.namesUnder service infos
  | .error _ => []

/-- The configurations that resolve, of the names that are enumerated under a service. -/
def indexOf (c : Cluster) (service : String) : List MapConfig :=
  (c.namesOf service).filterMap c.resolved?

theorem resolved?_eq_some_iff {c : Cluster} {name : String} {config : MapConfig} :
    c.resolved? name = some config ↔ c.lists name = true ∧ c.configs.get? name = some config := by
  unfold resolved? mapConfig
  by_cases h : c.lists name <;> simp [h]

/-- A resolved configuration is that of its name. -/
theorem Sound.name_of_resolved {c : Cluster} (h : c.Sound) {name : String} {config : MapConfig}
    (hr : c.resolved? name = some config) : config.name = name :=
  h.named (resolved?_eq_some_iff.mp hr).2

/-- A map whose configuration resolves can be read unless a failure is injected. -/
theorem Sound.mapStats_of_resolved {c : Cluster} (h : c.Sound) {name : String}
    {config : MapConfig} (hr : c.resolved? name = some config) :
    c.mapStats name =
      match c.statsFailures.get? name with
      | some failure => .error failure
      | none => .ok (c.countersOf name) := by
  obtain ⟨stats, hs⟩ := h.counted (resolved?_eq_some_iff.mp hr).2
  rw [mapStats, countersOf, hs]
  cases c.statsFailures.get? name <;> rfl

/-- There is an index exactly when there is an enumeration. -/
theorem result_configIndex_eq_ok_iff {c : Cluster} {service : String}
    {configs : List MapConfig} :
    (configIndex service).result c.answers = .ok configs ↔
      (∃ infos, c.distributedObjects = .ok infos) ∧ c.indexOf service = configs := by
  have hfails (name : String) : c.answers.lookupFailure? name = none := by
    unfold Answers.lookupFailure? answers mapConfig
    by_cases h : c.lists name <;> simp [h]
  rw [Answers.result_configIndex]
  change (Except.mapError _ c.distributedObjects).bind _ = _ ↔ _
  rw [indexOf, namesOf]
  cases c.distributedObjects with
  | error f => simp [Except.bind]
  | ok infos =>
    have hnone : (ObjectInfo.namesUnder service infos).findSome? c.answers.lookupFailure? = none :=
      List.findSome?_eq_none_iff.mpr fun name _ => hfails name
    simp only [mapError_ok, Except.bind, hnone, Raised.unless_none, Except.ok.injEq,
      exists_eq', true_and]
    rfl

/-- A failure to enumerate is a failure to build an index. -/
theorem result_configIndex_of_error {c : Cluster} {f : Failure}
    (h : c.distributedObjects = .error f) (service : String) :
    (configIndex service).result c.answers = .error ⟨f, none⟩ := by
  rw [Answers.result_configIndex]
  change (Except.mapError _ c.distributedObjects).bind _ = _
  rw [h]
  rfl

/-! ## Distinct names -/

/-- Where the objects are a table, no name is enumerated twice. -/
theorem Directory.nodup_namesOf {c : Cluster} {t : Table Value} (h : c.Directory t)
    (service : String) : (c.namesOf service).Nodup := by
  rw [namesOf]
  cases hd : c.distributedObjects with
  | error f => exact List.nodup_nil
  | ok infos =>
    have hnames : infos.map (·.name) = t.names :=
      Identify.names (h.objects ▸ (distributedObjects_eq_ok_iff.mp hd).2)
    exact (hnames ▸ h.distinct).sublist (List.filter_sublist.map _)

/-- Where the objects are a table that can be enumerated, a name is enumerated under the service
that stands in the table. -/
theorem Directory.mem_namesOf_iff {c : Cluster} {t : Table Value} (h : c.Directory t)
    (hd : ∃ infos, c.distributedObjects = .ok infos) {service name : String} :
    name ∈ c.namesOf service ↔ ∃ v, t.get? name = some v ∧ Field.text v = .valid service := by
  obtain ⟨infos, hd⟩ := hd
  have hidentify : Identify t.listed infos := h.objects ▸ (distributedObjects_eq_ok_iff.mp hd).2
  rw [namesOf, hd]
  simp only [ObjectInfo.mem_namesUnder_iff, hidentify.mem_iff, Table.mem_iff_get? h.distinct]

/-- Where the objects are a table, the names in it are listed. -/
theorem Directory.lists_iff {c : Cluster} {t : Table Value} (h : c.Directory t) {name : String} :
    c.lists name = true ↔ (t.get? name).isSome = true := by
  rw [lists, h.objects, Table.field?_listed]

/-- The configurations of an index stand in the order of their names. -/
theorem Sound.names_indexOf {c : Cluster} (h : c.Sound) (service : String) :
    ((c.indexOf service).map (·.name)).Sublist (c.namesOf service) := by
  rw [indexOf]
  induction c.namesOf service with
  | nil => exact .slnil
  | cons name rest ih =>
    cases hr : c.resolved? name with
    | none =>
      rw [List.filterMap_cons_none hr]
      exact ih.cons name
    | some config =>
      rw [List.filterMap_cons_some hr, List.map_cons, h.name_of_resolved hr]
      exact ih.cons_cons name

/-- No two configurations of an index have the same name. -/
theorem Sound.nodup_indexOf {c : Cluster} (h : c.Sound) {t : Table Value} (ht : c.Directory t)
    (service : String) : ((c.indexOf service).map (·.name)).Nodup :=
  (ht.nodup_namesOf service).sublist (h.names_indexOf service)

/-- A configuration stands in an index when it is that of its name, which is enumerated. -/
theorem Sound.mem_indexOf_iff {c : Cluster} (h : c.Sound) {service : String}
    {config : MapConfig} :
    config ∈ c.indexOf service ↔
      config.name ∈ c.namesOf service ∧ c.resolved? config.name = some config := by
  rw [indexOf, List.mem_filterMap]
  constructor
  · rintro ⟨name, hn, hr⟩
    rw [h.name_of_resolved hr]
    exact ⟨hn, hr⟩
  · intro hc
    exact ⟨config.name, hc⟩

end MapMetrics.Cluster
