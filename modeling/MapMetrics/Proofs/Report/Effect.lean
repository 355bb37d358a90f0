import MapMetrics.Proofs.Cluster.Contents
import MapMetrics.Proofs.Cluster.Store
import MapMetrics.Proofs.Report.Failing

/-!
# What an operation does to a report

An operation is about one name, and the reports before and after it differ by what the index holds
under this name: every trait that a map has which is gone is counted once less, every trait that a
map has which has come is counted once more, and an average changes only where one of the two takes
part in it. Such an average may grow, also when a map is gone; a cycle that made a report before
then makes none any more if the average has too many digits to be written.
-/

namespace MapMetrics

namespace Cluster

variable {c : Cluster}

/-- The configuration that the index of a service holds under a name. -/
def indexed? (c : Cluster) (service name : String) : Option MapConfig :=
  (c.indexOf service).find? fun config => config.name == name

/-- The tables of a cluster that clients have come to lie inside of each other. -/
theorem Reachable.nested (h : c.Reachable) : ∃ services : Table String, c.Nested services := by
  obtain ⟨service, history, rfl⟩ := reachable_iff.mp h
  exact nested_after service history

/-! ## The index under a name -/

theorem Sound.indexed?_eq_some_iff (h : c.Sound) {service name : String} {config : MapConfig} :
    c.indexed? service name = some config ↔
      name ∈ c.namesOf service ∧ c.resolved? name = some config := by
  have hmem {found : MapConfig} (hf : c.indexed? service name = some found) :
      name ∈ c.namesOf service ∧ c.resolved? name = some found := by
    have hname : found.name = name := by simpa using List.find?_some hf
    exact hname ▸ h.mem_indexOf_iff.mp (List.mem_of_find?_eq_some hf)
  refine ⟨hmem, fun ⟨hn, hr⟩ => ?_⟩
  have hname := h.name_of_resolved hr
  have hfound : (c.indexed? service name).isSome = true := by
    refine List.find?_isSome.mpr ⟨config, h.mem_indexOf_iff.mpr ?_, by simpa using hname⟩
    rw [hname]
    exact ⟨hn, hr⟩
  obtain ⟨found, hf⟩ := Option.isSome_iff_exists.mp hfound
  rw [hf, ← (hmem hf).2, hr]

/-- The maps of a service that pass a test are those whose configuration in the index passes it. -/
theorem Sound.mem_mapsWith_iff (h : c.Sound) {service name : String} {test : MapConfig → Bool} :
    name ∈ c.mapsWith service test ↔ (c.indexed? service name).any test = true := by
  rw [mapsWith, Finset.mem_filter, List.mem_toFinset, Option.any_eq_true, Option.any_eq_true]
  simp only [h.indexed?_eq_some_iff, and_assoc, exists_and_left]

/-- Without the map of a name there is one map less that passes a test which it passes. -/
theorem Sound.card_mapsWith (h : c.Sound) (service name : String) (test : MapConfig → Bool) :
    (c.mapsWith service test).card = ((c.mapsWith service test).erase name).card +
      if (c.indexed? service name).any test then 1 else 0 := by
  by_cases hn : name ∈ c.mapsWith service test
  · rw [if_pos (h.mem_mapsWith_iff.mp hn), Finset.card_erase_add_one hn]
  · rw [if_neg (mt h.mem_mapsWith_iff.mpr hn), Finset.erase_eq_of_notMem hn, Nat.add_zero]

/-- The averages come to an end unless every failure of an indexed map is isolated. -/
theorem Sound.abort?_eq_none_iff (h : c.Sound) {service : String} {isolate : Bool} :
    c.abort? service isolate = none ↔ ∀ name, (c.indexed? service name).isSome = true →
      ∀ f, c.statsFailures.get? name = some f → f.isIsolable = true ∧ isolate = true := by
  have hmem {name : String} : name ∈ c.mapNames service (fun _ => true) ↔
      (c.indexed? service name).isSome = true := by
    rw [mem_mapNames_iff, Option.isSome_iff_exists]
    simp only [h.indexed?_eq_some_iff, and_true, exists_and_left]
  rw [← Option.not_isSome_iff_eq_none, isSome_abort?_iff]
  simp only [hmem]
  constructor
  · intro hnone name hn f hf
    refine ⟨?_, ?_⟩
    · by_contra hi
      exact hnone (.inl ⟨name, hn, f, hf, Bool.eq_false_iff.mpr hi⟩)
    · by_contra hi
      exact hnone (.inr ⟨Bool.eq_false_iff.mpr hi, name, hn, f, hf⟩)
  · rintro hall (⟨name, hn, f, hf, hi⟩ | ⟨hi, name, hn, f, hf⟩)
    · exact Bool.false_ne_true (hi ▸ (hall name hn f hf).1)
    · exact Bool.false_ne_true (hi ▸ (hall name hn f hf).2)

/-! ## Operations about one name -/

section Operations

variable {services : Table String} {op : Operation} {name : String}

/-- Only an operation that is about no name changes whether the objects can be enumerated. -/
theorem enumerationFailure_apply (hop : op.target? = some name) :
    (c.apply op).enumerationFailure = c.enumerationFailure := by
  cases op with
  | updateStats other stats => rcases apply_updateStats c other stats with hc | hc <;> rw [hc]
  | failEnumeration failure => cases hop
  | _ => rfl

/-- What is held under other names stays as it is. -/
theorem Nested.alike_apply (h : c.Nested services) (hop : op.target? = some name)
    {other : String} (hother : other ≠ name) : Alike other c (c.apply op) :=
  h.directory.alike_apply (hop ▸ fun he => hother (Option.some.inj he).symm)

/-- The index stays as it is under other names. -/
theorem Nested.indexed?_apply (h : c.Nested services) (he : c.enumerationFailure = none)
    (hop : op.target? = some name) {other : String} (hother : other ≠ name) (service : String) :
    (c.apply op).indexed? service other = c.indexed? service other := by
  have hafter := h.apply op
  have halike := h.alike_apply hop hother
  refine Option.ext fun config => ?_
  rw [hafter.sound.indexed?_eq_some_iff, h.sound.indexed?_eq_some_iff, halike.resolved?,
    halike.mem_namesOf_iff h.directory hafter.directory he
      ((enumerationFailure_apply hop).trans he)]

/-- A count differs by what the index holds under the name. -/
theorem Nested.card_mapsWith_apply (h : c.Nested services) (he : c.enumerationFailure = none)
    (hop : op.target? = some name) (service : String) (test : MapConfig → Bool) :
    ∃ others, (c.mapsWith service test).card =
        others + (if (c.indexed? service name).any test then 1 else 0) ∧
      ((c.apply op).mapsWith service test).card =
        others + if ((c.apply op).indexed? service name).any test then 1 else 0 := by
  have hafter := h.apply op
  refine ⟨_, h.sound.card_mapsWith service name test, ?_⟩
  rw [hafter.sound.card_mapsWith service name test]
  congr 2
  ext other
  rw [Finset.mem_erase, Finset.mem_erase, hafter.sound.mem_mapsWith_iff, h.sound.mem_mapsWith_iff]
  refine and_congr_right fun hother => ?_
  rw [h.indexed?_apply he hop hother]

/-- The totals of a partition stay as they are if the map of the name is not in it, neither before
nor afterwards. -/
theorem Nested.totalsOf_apply (h : c.Nested services) (he : c.enumerationFailure = none)
    (hop : op.target? = some name) {service : String} {m : LatencyMetric}
    (hgone : (c.indexed? service name).any m.selects = false)
    (hcome : ((c.apply op).indexed? service name).any m.selects = false) :
    (c.apply op).totalsOf service m = c.totalsOf service m := by
  have hafter := h.apply op
  have hreadable : (c.apply op).readableWith service m.selects =
      c.readableWith service m.selects := by
    ext other
    rw [readableWith, readableWith, Finset.mem_filter, Finset.mem_filter,
      hafter.sound.mem_mapsWith_iff, h.sound.mem_mapsWith_iff]
    by_cases hother : other = name
    · rw [hother, hgone, hcome]
      simp only [Bool.false_eq_true, false_and]
    · rw [h.indexed?_apply he hop hother, (h.alike_apply hop hother).failure]
  have hcounters (other : String) (ho : other ∈ c.readableWith service m.selects) :
      (c.apply op).countersOf other = c.countersOf other := by
    have hother : other ≠ name := by
      rintro rfl
      rw [readableWith, Finset.mem_filter, h.sound.mem_mapsWith_iff, hgone] at ho
      exact Bool.false_ne_true ho.1
    rw [countersOf, countersOf, (h.alike_apply hop hother).stats]
  rw [totalsOf, totalsOf, hreadable]
  congr 1
  · exact Finset.sum_congr rfl fun other ho => by rw [hcounters other ho]
  · exact Finset.sum_congr rfl fun other ho => by rw [hcounters other ho]

/-- The averages still do not come to an end, unless the map of the name has a failure that is not
isolated. -/
theorem Nested.abort?_apply (h : c.Nested services) (he : c.enumerationFailure = none)
    (hop : op.target? = some name) {service : String} {isolate : Bool}
    (hnone : c.abort? service isolate = none)
    (hname : ((c.apply op).indexed? service name).isSome = true → ∀ f,
      (c.apply op).statsFailures.get? name = some f → f.isIsolable = true ∧ isolate = true) :
    (c.apply op).abort? service isolate = none := by
  refine (h.apply op).sound.abort?_eq_none_iff.mpr fun other hindexed f hf => ?_
  by_cases hother : other = name
  · subst hother
    exact hname hindexed f hf
  · rw [h.indexed?_apply he hop hother] at hindexed
    rw [(h.alike_apply hop hother).failure] at hf
    exact h.sound.abort?_eq_none_iff.mp hnone other hindexed f hf

end Operations

/-! ## The index under the name of an operation -/

/-- Without a configuration the index holds nothing under a name. -/
theorem Sound.indexed?_of_unconfigured (h : c.Sound) {name : String}
    (hnone : c.configs.get? name = none) (service : String) : c.indexed? service name = none := by
  refine Option.eq_none_iff_forall_ne_some.mpr fun config hc => ?_
  have hconfig := (resolved?_eq_some_iff.mp (h.indexed?_eq_some_iff.mp hc).2).2
  rw [hnone] at hconfig
  cases hconfig

/-- What is not enumerated is not in the index. -/
theorem Sound.indexed?_of_not_enumerated (h : c.Sound) {name : String}
    (hnew : ∀ infos, c.distributedObjects = .ok infos → name ∉ infos.map (·.name))
    (service : String) : c.indexed? service name = none := by
  refine Option.eq_none_iff_forall_ne_some.mpr fun config hc => ?_
  have hname := (h.indexed?_eq_some_iff.mp hc).1
  rw [namesOf] at hname
  cases hd : c.distributedObjects with
  | error f =>
    rw [hd] at hname
    cases hname
  | ok infos =>
    rw [hd] at hname
    exact hnew infos hd (List.mem_map.mpr ⟨_, ObjectInfo.mem_namesUnder_iff.mp hname, rfl⟩)

/-- A map that is registered is in the index of its service. -/
theorem Nested.indexed?_addMap {services : Table String} (h : c.Nested services)
    (he : c.enumerationFailure = none) (config : MapConfig) (stats : Option MapStats) :
    (c.apply (.addMap config stats)).indexed? c.mapService config.name = some config := by
  have hafter := h.apply (.addMap config stats)
  refine hafter.sound.indexed?_eq_some_iff.mpr ⟨?_, resolved?_eq_some_iff.mpr ⟨?_, ?_⟩⟩
  · refine (hafter.directory.mem_namesOf_iff
      (hafter.directory.exists_distributedObjects_iff.mpr he)).mpr ⟨.text c.mapService, ?_, ?_⟩
    · rw [Table.get?_texts, Operation.relist, Table.get?_put, if_pos rfl]
      rfl
    · exact Field.text_text _
  · rw [hafter.directory.lists_iff, Table.get?_texts, Operation.relist, Table.get?_put, if_pos rfl]
    rfl
  · exact (Table.get?_put c.configs config.name config.name config).trans (if_pos rfl)

/-- Counters do not matter to the index. -/
theorem indexed?_updateStats (c : Cluster) (name : String) (stats : MapStats)
    (service other : String) :
    (c.apply (.updateStats name stats)).indexed? service other = c.indexed? service other := by
  rcases apply_updateStats c name stats with hc | hc
  · rw [hc]
  · rw [hc]
    rfl

end Cluster

namespace Report

variable {c : Cluster}

/-! ## Reports -/

/-- Two reports differ by a map that is gone and one that has come: a trait is counted once for each
of them that has it, and an average that neither takes part in is the same. -/
structure Differ (style : KeyStyle) (gone come : Option MapConfig) (before after : Report) :
    Prop where
  /-- The counts differ by the two maps. -/
  counts : ∀ t ∈ Trait.catalog, ∃ others,
    before.lookup (t.label.reportKey style) =
        some (toString (others + if gone.any t.holds then 1 else 0)) ∧
      after.lookup (t.label.reportKey style) =
        some (toString (others + if come.any t.holds then 1 else 0))
  /-- The averages over other maps are the same. -/
  averages : ∀ m ∈ LatencyMetric.catalog, gone.any m.selects = false →
    come.any m.selects = false →
    after.lookup (m.label.reportKey style) = before.lookup (m.label.reportKey style)

/-- An average that a map takes part in which is gone or has come has too many digits to be
written. -/
def Overfull (c : Cluster) (service : String) (gone come : Option MapConfig) : Prop :=
  ∃ m ∈ LatencyMetric.catalog, (gone.any m.selects = true ∨ come.any m.selects = true) ∧
    Number.isWritable (c.totalsOf service m).average = false

/-- A cycle makes a report that differs from one before by two maps, unless an average that one of
them takes part in has too many digits to be written. -/
def Shifts (settings : Settings) (before : Report) (gone come : Option MapConfig)
    (c : Cluster) : Prop :=
  let outcome := ((collect settings).run Cluster.view c).1.result
  (Overfull c settings.mapServiceName gone come →
    outcome = .error (.ofMishap (.value (Number.tooManyDigits none)))) ∧
  (¬ Overfull c settings.mapServiceName gone come →
    ∃ after, outcome = .ok after ∧ Differ settings.keyStyle gone come before after)

/-- A cycle that makes a report has met no failure and no average with too many digits, and what it
reports is what it has found. -/
theorem of_result_collect_eq_ok (hs : c.Sound) {t : Table Value} (hdir : c.Directory t)
    {settings : Settings} {report : Report} (h : (collect settings).result c.answers = .ok report) :
    (∃ infos, c.distributedObjects = .ok infos) ∧
    c.abort? settings.mapServiceName settings.isolateStatsFailures = none ∧
    ¬ Unwritable c settings.mapServiceName ∧
    (∀ t ∈ Trait.catalog, report.lookup (t.label.reportKey settings.keyStyle) =
      some (toString (c.mapsWith settings.mapServiceName t.holds).card)) ∧
    ∀ m ∈ LatencyMetric.catalog, report.lookup (m.label.reportKey settings.keyStyle) =
      some (c.totalsOf settings.mapServiceName m).text := by
  obtain ⟨configs, hi, -, -, hreport⟩ := result_collect_eq_ok_iff.mp h
  obtain ⟨hd, rfl⟩ := Cluster.result_configIndex_eq_ok_iff.mp hi
  have hkeys : (report.map (·.1)).Nodup := by
    rw [hreport, keys_ofIndex]
    exact nodup_keys settings.keyStyle
  have hlookup {key text : String} (hmem : (key, text) ∈ report) :
      report.lookup key = some text := (Table.mem_iff_get? hkeys).mp hmem
  have hnone : c.abort? settings.mapServiceName settings.isolateStatsFailures = none := by
    refine Option.eq_none_iff_forall_ne_some.mpr fun f hf => ?_
    rw [result_collect_of_enumerable hs hd, hf] at h
    cases h
  refine ⟨hd, hnone, fun hu => ?_, fun t ht => hlookup ?_, fun m hm => hlookup ?_⟩
  · rw [(result_collect_of_not_abort hs hdir hd hnone).1 hu] at h
    cases h
  · rw [← Cluster.count_indexOf hdir, hreport, ofIndex]
    exact List.mem_append_left _ (List.mem_map_of_mem ht)
  · rw [← LatencyTotals.toString_average, ← Cluster.average_indexOf hs hdir, hreport, ofIndex]
    exact List.mem_append_right _ (List.mem_map_of_mem hm)

/-- An operation about a name shifts the report by what the index holds under it, if the map that
it leaves there has no failure that is not isolated. -/
theorem shifts_apply {services : Table String} (hnested : c.Nested services) {settings : Settings}
    {before : Report} (h : (collect settings).result c.answers = .ok before) (op : Operation)
    {name : String} (hop : op.target? = some name)
    (hname : ((c.apply op).indexed? settings.mapServiceName name).isSome = true → ∀ f,
      (c.apply op).statsFailures.get? name = some f →
        f.isIsolable = true ∧ settings.isolateStatsFailures = true) :
    Shifts settings before (c.indexed? settings.mapServiceName name)
      ((c.apply op).indexed? settings.mapServiceName name) (c.apply op) := by
  have hafter := hnested.apply op
  obtain ⟨hd, hnone, hwritable, hcounts, haverages⟩ :=
    of_result_collect_eq_ok hnested.sound hnested.directory h
  have he : c.enumerationFailure = none := hnested.directory.exists_distributedObjects_iff.mp hd
  have hdafter : ∃ infos, (c.apply op).distributedObjects = .ok infos :=
    hafter.directory.exists_distributedObjects_iff.mpr
      ((Cluster.enumerationFailure_apply hop).trans he)
  obtain ⟨hbad, hgood⟩ := result_collect_of_not_abort hafter.sound hafter.directory hdafter
    (hnested.abort?_apply he hop hnone hname)
  -- all other averages are those that have been written before
  have hoverfull : Unwritable (c.apply op) settings.mapServiceName ↔
      Overfull (c.apply op) settings.mapServiceName (c.indexed? settings.mapServiceName name)
        ((c.apply op).indexed? settings.mapServiceName name) := by
    refine ⟨fun ⟨m, hm, hu⟩ => ⟨m, hm, ?_, hu⟩, fun ⟨m, hm, _, hu⟩ => ⟨m, hm, hu⟩⟩
    by_contra hneither
    rw [not_or, Bool.not_eq_true, Bool.not_eq_true] at hneither
    rw [hnested.totalsOf_apply he hop hneither.1 hneither.2] at hu
    exact hwritable ⟨m, hm, hu⟩
  rw [Shifts, Query.run_cluster_result]
  refine ⟨fun ho => hbad (hoverfull.mpr ho), fun ho => ?_⟩
  obtain ⟨after, hreport⟩ := hgood (mt hoverfull.mp ho)
  obtain ⟨-, -, -, hcounts', haverages'⟩ :=
    of_result_collect_eq_ok hafter.sound hafter.directory hreport
  refine ⟨after, hreport, fun t ht => ?_, fun m hm hgone hcome => ?_⟩
  · obtain ⟨others, hbefore, hothers⟩ :=
      hnested.card_mapsWith_apply he hop settings.mapServiceName t.holds
    exact ⟨others, by rw [hcounts t ht, hbefore], by rw [hcounts' t ht, hothers]⟩
  · rw [haverages m hm, haverages' m hm, hnested.totalsOf_apply he hop hgone hcome]

/-- Where a cycle makes a report of a cluster that clients have come to, dropping the configuration
of a map or removing it shifts the report by the map that is in the index under the name, if there
is one, and registering a map under a name that is not enumerated by the new map. Replacing
counters, and letting reads of them fail where that is isolated, changes no count, and no average
that the map takes no part in. -/
theorem collect_shifts (hc : c.Reachable) (settings : Settings) (before : Report)
    (h : ((collect settings).run Cluster.view c).1.result = .ok before) :
    let maps := settings.mapServiceName
    (∀ name, ∀ op ∈ [Operation.forgetConfig name, .remove name],
      Shifts settings before (c.indexed? maps name) none (c.apply op)) ∧
    (∀ config stats, maps = c.mapService →
      (∀ infos, c.distributedObjects = .ok infos → config.name ∉ infos.map (·.name)) →
      Shifts settings before none (some config) (c.apply (.addMap config stats))) ∧
    (∀ name stats, Shifts settings before (c.indexed? maps name) (c.indexed? maps name)
      (c.apply (.updateStats name stats))) ∧
    ∀ name failure, settings.isolateStatsFailures = true →
      (failure.getD (Cluster.injectedFailure name)).isIsolable = true →
      Shifts settings before (c.indexed? maps name) (c.indexed? maps name)
        (c.apply (.failStats name failure)) := by
  intro maps
  obtain ⟨services, hnested⟩ := hc.nested
  rw [Query.run_cluster_result] at h
  obtain ⟨hd, hnone, -⟩ := of_result_collect_eq_ok hnested.sound hnested.directory h
  have he : c.enumerationFailure = none := hnested.directory.exists_distributedObjects_iff.mp hd
  refine ⟨fun name op hop => ?_, fun config stats hmaps hnew => ?_, fun name stats => ?_,
    fun name failure hisolate hisolable => ?_⟩
  · have hgone {op : Operation} (htarget : op.target? = some name)
        (herased : (c.apply op).configs.get? name = none) :
        Shifts settings before (c.indexed? maps name) none (c.apply op) := by
      have hnone := (hnested.apply op).sound.indexed?_of_unconfigured herased maps
      have hshift := shifts_apply hnested h op htarget fun hindexed => by
        rw [hnone] at hindexed
        cases hindexed
      rwa [hnone] at hshift
    have herased : (c.configs.erase name).get? name = none :=
      (Table.get?_erase c.configs name name).trans (if_pos rfl)
    obtain rfl | rfl : op = .forgetConfig name ∨ op = .remove name := by simpa using hop
    · exact hgone rfl herased
    · exact hgone rfl herased
  · have hcome : (c.apply (.addMap config stats)).indexed? maps config.name = some config :=
      hmaps ▸ hnested.indexed?_addMap he config stats
    have hshift := shifts_apply hnested h (.addMap config stats) rfl fun _ f hf => by
      rw [show (c.apply (.addMap config stats)).statsFailures.get? config.name = none from
        (Table.get?_erase c.statsFailures config.name config.name).trans (if_pos rfl)] at hf
      cases hf
    rwa [hcome, hnested.sound.indexed?_of_not_enumerated hnew] at hshift
  · have hsame := Cluster.indexed?_updateStats c name stats maps name
    have hfailures : (c.apply (.updateStats name stats)).statsFailures = c.statsFailures := by
      rcases Cluster.apply_updateStats c name stats with hc | hc <;> rw [hc]
    have hshift := shifts_apply hnested h (.updateStats name stats) rfl
      fun hindexed f hf => hnested.sound.abort?_eq_none_iff.mp hnone name (hsame ▸ hindexed) f
        (hfailures ▸ hf)
    rwa [hsame] at hshift
  · refine shifts_apply hnested h (.failStats name failure) rfl fun _ f hf => ?_
    have hput : (c.apply (.failStats name failure)).statsFailures.get? name =
        some (failure.getD (Cluster.injectedFailure name)) :=
      (Table.get?_put c.statsFailures name name _).trans (if_pos rfl)
    obtain rfl := Option.some.inj (hput.symm.trans hf)
    exact ⟨hisolable, hisolate⟩

/-- From the shop the map in the store is removed, or a new map comes, or reads of the map in the
store are let fail: in the first case a report without it is made. -/
theorem collect_shifts_shop :
    let c := Cluster.after defaultMapService shop
    let orders : MapConfig := { name := "orders", mapStore := { enabled := true } }
    c.Reachable ∧
    ((collect {}).run Cluster.view (Cluster.after defaultMapService shop)).1.result =
      .ok shopReport ∧
    c.indexed? defaultMapService "orders" = some orders ∧
    (∃ after, ((collect {}).run Cluster.view (c.apply (.remove "orders"))).1.result = .ok after ∧
      Differ .descriptive (some orders) none shopReport after) ∧
    Shifts {} shopReport none (some { name := "users" })
      (c.apply (.addMap { name := "users" } none)) ∧
    Shifts {} shopReport (some orders) (some orders) (c.apply (.failStats "orders" none)) := by
  intro c orders
  have hreport : ((collect {}).run Cluster.view
      (Cluster.after defaultMapService shop)).1.result = .ok shopReport :=
    eq_ok_of_toOption (by decide +kernel)
  have horders : c.indexed? defaultMapService "orders" = some orders := by decide +kernel
  have hreachable : (Cluster.after defaultMapService shop).Reachable :=
    Cluster.reachable_iff.mpr ⟨defaultMapService, shop, rfl⟩
  obtain ⟨hgone, hcome, -, hfails⟩ := collect_shifts hreachable {} shopReport hreport
  have hremoved : Shifts {} shopReport (some orders) none (c.apply (.remove "orders")) :=
    horders ▸ hgone "orders" (.remove "orders") (by simp)
  have hmade : (((collect {}).run Cluster.view
      (c.apply (.remove "orders"))).1.result.toOption).isSome = true := by
    decide +kernel
  have hwritable : ¬ Overfull (c.apply (.remove "orders")) defaultMapService (some orders) none :=
    fun ho => by
      rw [hremoved.1 ho] at hmade
      cases hmade
  have hnew : ∀ infos, c.distributedObjects = .ok infos → "users" ∉ infos.map (·.name) := by
    intro infos hinfos
    obtain rfl := Except.ok.inj ((show c.distributedObjects = .ok _ by rfl).symm.trans hinfos)
    decide
  exact ⟨hreachable, hreport, horders, hremoved.2 hwritable,
    hcome { name := "users" } none rfl hnew, horders ▸ hfails "orders" none rfl rfl⟩

/-- Two maps whose latencies have as many digits as can be written, and two writes, one of them to a
third map. -/
def packed : List Operation := [
  .addMap { name := "orders" }
    (some { totalPutLatency := 10 ^ 4300 - 1, putOperationCount := 1 }),
  .addMap { name := "carts" } (some { totalPutLatency := 10 ^ 4300 - 1 }),
  .addMap { name := "users", readBackupData := true } (some { putOperationCount := 1 })]

/-- A cycle makes a report of the packed cluster, and none any more when the third map is removed:
the average has grown by a digit. -/
theorem collect_removed_packed :
    let c := Cluster.after defaultMapService packed
    c.Reachable ∧ (∃ before, ((collect {}).run Cluster.view c).1.result = .ok before) ∧
      ((collect {}).run Cluster.view (c.apply (.remove "users"))).1.result =
        .error (.ofMishap (.value (Number.tooManyDigits none))) := by
  intro c
  obtain ⟨services, hnested⟩ := Cluster.nested_after defaultMapService packed
  have hbefore : (LatencyMetric.catalog.all fun m => Number.isWritable
      (c.answers.average m (c.indexOf defaultMapService))) = true := by
    decide +kernel
  have hafter : (LatencyMetric.catalog.all fun m => Number.isWritable
      ((c.apply (.remove "users")).answers.average m
        ((c.apply (.remove "users")).indexOf defaultMapService))) = false := by
    decide +kernel
  refine ⟨Cluster.reachable_iff.mpr ⟨defaultMapService, packed, rfl⟩, ?_, ?_⟩
  · rw [Query.run_cluster_result, result_collect_of_enumerable hnested.sound
      (hnested.directory.exists_distributedObjects_iff.mpr rfl)]
    exact ⟨_, if_pos hbefore⟩
  · have hremoved := hnested.apply (.remove "users")
    rw [Query.run_cluster_result, result_collect_of_enumerable hremoved.sound
      (hremoved.directory.exists_distributedObjects_iff.mpr rfl)]
    exact if_neg (Bool.eq_false_iff.mp hafter)

end Report

end MapMetrics
