import MapMetrics.Proofs.Cluster.Frame
import MapMetrics.Proofs.Report.Population

/-!
# When a cycle fails

After a history of operations there are three ways for a cycle to fail, and the first that applies
counts: a failure is injected into enumeration; a failure is injected for a map of the service and
is not isolated; or an average has too many digits to be written. Failures of the first two kinds
are failures of the collection, with the injected failure as their cause. Which of several maps is
blamed depends on the order of the catalog before that of enumeration, so that maps in a store come
first.
-/

namespace MapMetrics

namespace Cluster

variable (c : Cluster)

/-- The maps of a service that pass a test, in the order in which they are enumerated. -/
def mapNames (service : String) (test : MapConfig → Bool) : List String :=
  (c.namesOf service).filter fun name => (c.resolved? name).any test

/-- The failure that is injected for a map, unless it is isolated. -/
def abortOf? (isolate : Bool) (name : String) : Option Failure :=
  (c.statsFailures.get? name).filter fun f => !(isolate && f.isIsolable)

/-- The failure that ends the averages over a service: that of the first map in a store that has
one, or else that of the first map beside the stores. -/
def abort? (service : String) (isolate : Bool) : Option Failure :=
  ((c.mapNames service MapConfig.isStoreBacked).findSome? (c.abortOf? isolate)).or
    ((c.mapNames service (Trait.negate MapConfig.isStoreBacked)).findSome? (c.abortOf? isolate))

variable {c}

theorem mem_mapNames_iff {service name : String} {test : MapConfig → Bool} :
    name ∈ c.mapNames service test ↔
      name ∈ c.namesOf service ∧ ∃ config, c.resolved? name = some config ∧ test config = true := by
  rw [mapNames, List.mem_filter, Option.any_eq_true]

theorem abortOf?_eq_some_iff {isolate : Bool} {name : String} {f : Failure} :
    c.abortOf? isolate name = some f ↔
      c.statsFailures.get? name = some f ∧ (f.isIsolable = false ∨ isolate = false) := by
  rw [abortOf?, Option.filter_eq_some_iff]
  cases isolate <;> cases f.isIsolable <;> simp

/-- What ends the averages is a failure that is injected for a map. -/
theorem exists_of_abort? {service : String} {isolate : Bool} {f : Failure}
    (h : c.abort? service isolate = some f) : ∃ name, c.statsFailures.get? name = some f := by
  have hnames {names : List String} (hf : names.findSome? (c.abortOf? isolate) = some f) :
      ∃ name, c.statsFailures.get? name = some f := by
    obtain ⟨name, -, hname⟩ := List.exists_of_findSome?_eq_some hf
    exact ⟨name, (abortOf?_eq_some_iff.mp hname).1⟩
  rcases Option.or_eq_some_iff.mp h with hf | ⟨-, hf⟩
  · exact hnames hf
  · exact hnames hf

/-- The configurations in the way of an average are those of maps with a failure that is not
isolated. -/
theorem Sound.findSome?_blocker? (h : c.Sound) (service : String) (m : LatencyMetric)
    (isolate : Bool) :
    (c.indexOf service).findSome? (c.answers.blocker? m isolate) =
      (c.mapNames service m.selects).findSome? (c.abortOf? isolate) := by
  rw [indexOf, mapNames]
  induction c.namesOf service with
  | nil => rfl
  | cons name rest ih =>
    cases hr : c.resolved? name with
    | none => simpa [hr] using ih
    | some config =>
      have hname := h.name_of_resolved hr
      have hstats : c.answers.stats name = _ := h.mapStats_of_resolved hr
      rw [List.filterMap_cons_some hr, List.findSome?_cons, ih]
      by_cases hs : m.selects config = true
      · have hblocker : c.answers.blocker? m isolate config = c.abortOf? isolate name := by
          rw [Answers.blocker?, if_pos hs, hname, hstats, abortOf?]
          cases c.statsFailures.get? name with
          | none => rfl
          | some f => cases hi : (isolate && f.isIsolable) <;> simp [Option.filter, hi]
        rw [hblocker, List.filter_cons_of_pos (by rw [hr]; exact hs), List.findSome?_cons]
      · have hblocker : c.answers.blocker? m isolate config = none := by
          rw [Answers.blocker?, if_neg hs]
        rw [hblocker, List.filter_cons_of_neg (by rw [hr]; exact hs)]

/-- Of all averages, those over the maps in a store come first. -/
theorem Sound.findSome?_catalog (h : c.Sound) (service : String) (isolate : Bool) :
    (LatencyMetric.catalog.findSome? fun m =>
      (c.indexOf service).findSome? (c.answers.blocker? m isolate)) = c.abort? service isolate := by
  simp only [h.findSome?_blocker?, LatencyMetric.catalog, List.findSome?_cons, List.findSome?_nil,
    abort?]
  cases (c.mapNames service MapConfig.isStoreBacked).findSome? (c.abortOf? isolate) with
  | some f => rfl
  | none =>
    cases (c.mapNames service (Trait.negate MapConfig.isStoreBacked)).findSome?
      (c.abortOf? isolate) <;> rfl

private theorem isSome_findSome?_iff {names : List String} {isolate : Bool} :
    (names.findSome? (c.abortOf? isolate)).isSome = true ↔
      ∃ name ∈ names, ∃ f, c.statsFailures.get? name = some f ∧
        (f.isIsolable = false ∨ isolate = false) := by
  rw [List.findSome?_isSome_iff]
  simp only [Option.isSome_iff_exists, abortOf?_eq_some_iff]

/-- The averages are ended exactly when a failure is injected for some map of the service that
cannot be isolated, or that is not isolated. -/
theorem isSome_abort?_iff {service : String} {isolate : Bool} :
    (c.abort? service isolate).isSome = true ↔
      (∃ name ∈ c.mapNames service fun _ => true, ∃ f, c.statsFailures.get? name = some f ∧
        f.isIsolable = false) ∨
      isolate = false ∧ ∃ name ∈ c.mapNames service fun _ => true,
        ∃ f, c.statsFailures.get? name = some f := by
  rw [abort?, Option.isSome_or, Bool.or_eq_true, isSome_findSome?_iff, isSome_findSome?_iff]
  simp only [mem_mapNames_iff]
  constructor
  · rintro (⟨name, ⟨hn, config, hr, -⟩, f, hf, hi | hi⟩ |
      ⟨name, ⟨hn, config, hr, -⟩, f, hf, hi | hi⟩)
    · exact .inl ⟨name, ⟨hn, config, hr, trivial⟩, f, hf, hi⟩
    · exact .inr ⟨hi, name, ⟨hn, config, hr, trivial⟩, f, hf⟩
    · exact .inl ⟨name, ⟨hn, config, hr, trivial⟩, f, hf, hi⟩
    · exact .inr ⟨hi, name, ⟨hn, config, hr, trivial⟩, f, hf⟩
  · intro h
    have hname : ∃ name, (name ∈ c.namesOf service ∧ ∃ config, c.resolved? name = some config) ∧
        ∃ f, c.statsFailures.get? name = some f ∧ (f.isIsolable = false ∨ isolate = false) := by
      rcases h with ⟨name, ⟨hn, config, hr, -⟩, f, hf, hi⟩ | ⟨hi, name, ⟨hn, config, hr, -⟩, f, hf⟩
      · exact ⟨name, ⟨hn, config, hr⟩, f, hf, .inl hi⟩
      · exact ⟨name, ⟨hn, config, hr⟩, f, hf, .inr hi⟩
    obtain ⟨name, ⟨hn, config, hr⟩, hf⟩ := hname
    cases hs : config.isStoreBacked with
    | true => exact .inl ⟨name, ⟨hn, config, hr, hs⟩, hf⟩
    | false => exact .inr ⟨name, ⟨hn, config, hr, by rw [Trait.negate, hs]; rfl⟩, hf⟩

end Cluster

namespace Report

variable {c : Cluster}

/-! ## The three ways to fail -/

/-- A failure of enumeration is the failure of the cycle. -/
theorem result_collect_of_enumerationFailure {f : Failure} (h : c.enumerationFailure = some f)
    (settings : Settings) :
    (collect settings).result c.answers =
      .error (partFailure "Failed to enumerate maps" ⟨f, none⟩) := by
  have hd : c.distributedObjects = .error f := by rw [Cluster.distributedObjects, h]
  exact result_collect_of_index_error (Cluster.result_configIndex_of_error hd _)

/-- When the cluster can be enumerated, the first failure that is not isolated is that of the
cycle. Without one, the report is there if all averages can be written. -/
theorem result_collect_of_enumerable (hs : c.Sound) (hd : ∃ infos, c.distributedObjects = .ok infos)
    (settings : Settings) :
    (collect settings).result c.answers =
      let configs := c.indexOf settings.mapServiceName
      match c.abort? settings.mapServiceName settings.isolateStatsFailures with
      | some f => .error (partFailure "Failed to aggregate map latency" ⟨f, none⟩)
      | none =>
        if LatencyMetric.catalog.all fun m => Number.isWritable (c.answers.average m configs) then
          .ok (ofIndex settings.keyStyle configs fun m => c.answers.average m configs)
        else .error (.ofMishap (.value (Number.tooManyDigits none))) := by
  have hindex : (configIndex settings.mapServiceName).result c.answers =
      .ok (c.indexOf settings.mapServiceName) :=
    Cluster.result_configIndex_eq_ok_iff.mpr ⟨hd, rfl⟩
  have hcollect := result_collect_of_index hindex
  rw [hs.findSome?_catalog] at hcollect
  exact hcollect

/-- Only the counters of indexed maps matter to the averages. -/
theorem result_averages_congr {a b : Answers} {configs : List MapConfig}
    (h : ∀ config ∈ configs, a.stats config.name = b.stats config.name) (settings : Settings) :
    (averages settings configs).result a = (averages settings configs).result b := by
  have hblocker (m : LatencyMetric) :
      configs.findSome? (a.blocker? m settings.isolateStatsFailures) =
        configs.findSome? (b.blocker? m settings.isolateStatsFailures) := by
    rw [← List.head?_filterMap, ← List.head?_filterMap]
    refine congrArg List.head? (List.filterMap_congr fun config hc => ?_)
    rw [Answers.blocker?, Answers.blocker?, h config hc]
  have haverage (m : LatencyMetric) : a.average m configs = b.average m configs := by
    have hcounters :
        a.counters (configs.filter m.selects) = b.counters (configs.filter m.selects) :=
      List.filterMap_congr fun config hc => by rw [h config (List.mem_of_mem_filter hc)]
    rw [Answers.average, Answers.average, hcounters]
  rw [result_averages, result_averages]
  simp only [hblocker, haverage]

/-- A failure that is injected for a name without an indexed map changes nothing. -/
theorem result_collect_failStats (hs : c.Sound) {settings : Settings} {name : String}
    (h : name ∉ c.mapNames settings.mapServiceName fun _ => true) (failure : Option Failure) :
    (collect settings).result (c.failStats name failure).answers =
      (collect settings).result c.answers := by
  have hindex : (configIndex settings.mapServiceName).result (c.failStats name failure).answers =
      (configIndex settings.mapServiceName).result c.answers := by
    rw [Answers.result_configIndex, Answers.result_configIndex]
    rfl
  rw [result_collect, result_collect, hindex]
  cases hi : (configIndex settings.mapServiceName).result c.answers with
  | error r => rfl
  | ok configs =>
    obtain ⟨-, rfl⟩ := Cluster.result_configIndex_eq_ok_iff.mp hi
    simp only [mapError_ok, Except.bind]
    rw [result_averages_congr]
    intro config hc
    obtain ⟨hnames, hresolved⟩ := hs.mem_indexOf_iff.mp hc
    have hne : ¬ config.name = name := fun he =>
      h (Cluster.mem_mapNames_iff.mpr ⟨he ▸ hnames, config, he ▸ hresolved, rfl⟩)
    have hget : (c.failStats name failure).statsFailures.get? config.name =
        c.statsFailures.get? config.name := (Table.get?_put _ _ _ _).trans (if_neg hne)
    change Cluster.mapStats config.name (c.failStats name failure) = c.mapStats config.name
    rw [Cluster.mapStats, Cluster.mapStats, hget]
    rfl

/-- The failure of a collection that a failure to read the cluster brings about. -/
def collectionFailure (doing : String) (f : Failure) : Raised :=
  ⟨.collection (doing ++ ": " ++ f.message) (some collectorName), some f⟩

/-- Some average over the maps of a service has too many digits to be written. -/
def Unwritable (c : Cluster) (service : String) : Prop :=
  ∃ m ∈ LatencyMetric.catalog, Number.isWritable (c.totalsOf service m).average = false

theorem partFailure_of_isAccess {f : Failure} (h : f.isAccess = true) (doing : String) :
    partFailure doing ⟨f, none⟩ = collectionFailure doing f :=
  if_pos h

/-- With a failure that is not isolated, the collection fails. -/
theorem result_collect_of_abort (hs : c.Sound) (hd : ∃ infos, c.distributedObjects = .ok infos)
    (haccess : c.Failing (·.isAccess = true)) {settings : Settings} {f : Failure}
    (h : c.abort? settings.mapServiceName settings.isolateStatsFailures = some f) :
    (collect settings).result c.answers =
      .error (collectionFailure "Failed to aggregate map latency" f) := by
  obtain ⟨name, hname⟩ := Cluster.exists_of_abort? h
  rw [result_collect_of_enumerable hs hd, ← partFailure_of_isAccess (haccess.stats name f hname)]
  simp only [h]

/-- Without such a failure, there is a report exactly when all averages can be written. -/
theorem result_collect_of_not_abort (hs : c.Sound) {t : Table Value} (hdir : c.Directory t)
    (hd : ∃ infos, c.distributedObjects = .ok infos) {settings : Settings}
    (h : c.abort? settings.mapServiceName settings.isolateStatsFailures = none) :
    (Unwritable c settings.mapServiceName → (collect settings).result c.answers =
        .error (.ofMishap (.value (Number.tooManyDigits none)))) ∧
      (¬ Unwritable c settings.mapServiceName →
        ∃ report, (collect settings).result c.answers = .ok report) := by
  have hwritable : (LatencyMetric.catalog.all fun m => Number.isWritable
      (c.answers.average m (c.indexOf settings.mapServiceName))) = true ↔
        ¬ Unwritable c settings.mapServiceName := by
    simp only [Cluster.average_indexOf hs hdir, List.all_eq_true, Unwritable, not_exists, not_and,
      Bool.not_eq_false]
  rw [result_collect_of_enumerable hs hd]
  simp only [h]
  exact ⟨fun hu => if_neg fun hw => hwritable.mp hw hu,
    fun hu => ⟨_, if_pos (hwritable.mpr hu)⟩⟩

/-- A cycle fails in one of the three ways. -/
theorem exists_error_iff (hs : c.Sound) {services : Table String}
    (hdir : c.Directory services.texts) (haccess : c.Failing (·.isAccess = true))
    (settings : Settings) :
    (∃ r, (collect settings).result c.answers = .error r) ↔
      (∃ f, c.enumerationFailure = some f) ∨
      (c.abort? settings.mapServiceName settings.isolateStatsFailures).isSome = true ∨
      Unwritable c settings.mapServiceName := by
  cases he : c.enumerationFailure with
  | some f =>
    exact iff_of_true ⟨_, result_collect_of_enumerationFailure he settings⟩ (.inl ⟨f, rfl⟩)
  | none =>
    have hd := hdir.exists_distributedObjects_iff.mpr he
    cases hf : c.abort? settings.mapServiceName settings.isolateStatsFailures with
    | some f => exact iff_of_true ⟨_, result_collect_of_abort hs hd haccess hf⟩ (.inr (.inl rfl))
    | none =>
      obtain ⟨hbad, hgood⟩ := result_collect_of_not_abort hs hdir hd hf
      constructor
      · rintro ⟨r, hr⟩
        refine .inr (.inr (by_contra fun hu => ?_))
        obtain ⟨report, hreport⟩ := hgood hu
        rw [hr] at hreport
        cases hreport
      · rintro (⟨f, hnone⟩ | hnone | hu)
        · cases hnone
        · cases hnone
        · exact ⟨_, hbad hu⟩

/-! ## Histories -/

/-- After a history whose injected failures are failures to read the cluster, a cycle fails exactly
when a failure is injected into enumeration, when one is injected for an indexed map that cannot be
or is not isolated, or when an average cannot be written. In the first two cases the collection
fails and names the injected failure as its cause: that of enumeration, or else that of the first
map in a store, or else that of the first map beside the stores. Failures of other names change
nothing. -/
theorem collect_fails_iff (service : String) {history : List Operation}
    (hinjected : ∀ op ∈ history, ∀ f, op.injected? = some f → f.isAccess = true)
    (settings : Settings) :
    let c := Cluster.after service history
    let maps := settings.mapServiceName
    let isolate := settings.isolateStatsFailures
    let indexed := c.mapNames maps fun _ => true
    let outcome := ((collect settings).run Cluster.view c).1.result
    ((∃ r, outcome = .error r) ↔
      (∃ f, c.enumerationFailure = some f) ∨
      (∃ name ∈ indexed, ∃ f, c.statsFailures.get? name = some f ∧ f.isIsolable = false) ∨
      (isolate = false ∧ ∃ name ∈ indexed, ∃ f, c.statsFailures.get? name = some f) ∨
      Unwritable c maps) ∧
    (∀ f, c.enumerationFailure = some f →
      outcome = .error (collectionFailure "Failed to enumerate maps" f)) ∧
    (c.enumerationFailure = none → ∀ f, c.abort? maps isolate = some f →
      outcome = .error (collectionFailure "Failed to aggregate map latency" f)) ∧
    (c.enumerationFailure = none → c.abort? maps isolate = none → Unwritable c maps →
      outcome = .error (.ofMishap (.value (Number.tooManyDigits none)))) ∧
    (∀ name ∈ indexed, ∀ message cause,
      c.statsFailures.get? name = some (.clusterUnavailable message cause) →
        ∃ r, outcome = .error r) ∧
    ∀ name, name ∉ indexed → ∀ failure,
      ((collect settings).run Cluster.view (c.failStats name failure)).1.result = outcome := by
  intro c maps isolate indexed outcome
  have hs : c.Sound := Cluster.sound_after service history
  obtain ⟨services, hdir⟩ := Cluster.services_after service history
  have haccess : c.Failing (·.isAccess = true) := Cluster.failing_after service hinjected
  have hrun : outcome = (collect settings).result c.answers := Query.run_cluster_result c _
  have henumeration (f : Failure) (hf : c.enumerationFailure = some f) :
      outcome = .error (collectionFailure "Failed to enumerate maps" f) := by
    rw [hrun, result_collect_of_enumerationFailure hf,
      partFailure_of_isAccess (haccess.enumeration f hf)]
  have hiff : (∃ r, outcome = .error r) ↔
      (∃ f, c.enumerationFailure = some f) ∨
      (∃ name ∈ indexed, ∃ f, c.statsFailures.get? name = some f ∧ f.isIsolable = false) ∨
      (isolate = false ∧ ∃ name ∈ indexed, ∃ f, c.statsFailures.get? name = some f) ∨
      Unwritable c maps := by
    rw [hrun, exists_error_iff hs hdir haccess, Cluster.isSome_abort?_iff, or_assoc]
  have hd (he : c.enumerationFailure = none) : ∃ infos, c.distributedObjects = .ok infos :=
    hdir.exists_distributedObjects_iff.mpr he
  refine ⟨hiff, henumeration, ?_, ?_, ?_, ?_⟩
  · intro he f hf
    rw [hrun, result_collect_of_abort hs (hd he) haccess hf]
  · intro he hf hu
    rw [hrun, (result_collect_of_not_abort hs hdir (hd he) hf).1 hu]
  · intro name hn message cause hf
    exact hiff.mpr (.inr (.inl ⟨name, hn, _, hf, rfl⟩))
  · intro name hn failure
    rw [hrun, Query.run_cluster_result]
    exact result_collect_failStats hs hn failure

/-- Three maps that cannot be read: the one beside the stores comes first, and of those in a store
only the second one is out of reach. A name without a map is out of reach, too. -/
def unreachable : List Operation := [
  .addMap { name := "carts" } none,
  .addMap { name := "orders", mapStore := { enabled := true } } none,
  .addMap { name := "users", mapStore := { enabled := true } } none,
  .failStats "carts" (some (.clusterUnavailable none none)),
  .failStats "orders" none,
  .failStats "users" (some (.clusterUnavailable (some "No member owns the map") none)),
  .failStats "jobs" (some (.clusterUnavailable none none))]

/-- The map in a store that is out of reach is blamed. -/
theorem collect_fails_unreachable :
    (∀ op ∈ unreachable, ∀ f, op.injected? = some f → f.isAccess = true) ∧
      ((collect {}).run Cluster.view (Cluster.after defaultMapService unreachable)).1.result =
        .error (collectionFailure "Failed to aggregate map latency"
          (.clusterUnavailable (some "No member owns the map") none)) := by
  have hinjected : ∀ op ∈ unreachable, ∀ f, op.injected? = some f → f.isAccess = true := by
    simp [unreachable, Operation.injected?, Cluster.injectedFailure, Failure.isAccess]
  obtain ⟨-, -, habort, -⟩ := collect_fails_iff defaultMapService hinjected {}
  exact ⟨hinjected, habort rfl _ rfl⟩

/-- Two maps whose latencies have as many digits as can be written, and together one more. -/
def vast : List Operation := [
  .addMap { name := "orders" }
    (some { totalPutLatency := 10 ^ 4300 - 1, putOperationCount := 1 }),
  .addMap { name := "carts" } (some { totalPutLatency := 10 ^ 4300 - 1 })]

/-- Against the vast cluster a cycle has no average that can be written, and no report. -/
theorem result_collect_vast :
    (collect {}).result (Cluster.after defaultMapService vast).answers =
      .error (.ofMishap (.value (Number.tooManyDigits none))) := by
  have hs := Cluster.sound_after defaultMapService vast
  obtain ⟨services, hdir⟩ := Cluster.services_after defaultMapService vast
  have hvast : (LatencyMetric.catalog.all fun m => Number.isWritable
      ((Cluster.after defaultMapService vast).answers.average m
        ((Cluster.after defaultMapService vast).indexOf defaultMapService))) = false := by
    decide +kernel
  rw [result_collect_of_enumerable hs (hdir.exists_distributedObjects_iff.mpr rfl)]
  exact if_neg (Bool.eq_false_iff.mp hvast)

/-- Without any failure that is injected, a cycle ends with an error, and not one of the
collection. -/
theorem collect_fails_vast :
    let c := Cluster.after defaultMapService vast
    c.statsFailures = [] ∧ c.enumerationFailure = none ∧
      ((collect {}).run Cluster.view c).1.result =
        .error (.ofMishap (.value (Number.tooManyDigits none))) := by
  refine ⟨rfl, rfl, ?_⟩
  rw [Query.run_cluster_result, result_collect_vast]

end Report

end MapMetrics
