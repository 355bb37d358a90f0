import MapMetrics.Proofs.Report.Failing
import MapMetrics.Proofs.Report.Lookups

/-!
# Reports in any order of objects

The order in which a cluster enumerates its objects carries no meaning. Answers that differ in that
order only give indexes of the same configurations, the same counts and the same totals; whether a
failure stands in the way does not depend on the order either, only which one is met first. And in a
cycle that ends with a report, every configuration of the index has its counters read twice, once
for the writes and once for the reads of its partition, and is warned about twice if they cannot be
fetched.
-/

namespace MapMetrics

namespace Answers

/-- Two clusters answer alike, but for the order of the objects. -/
structure Permuted (a b : Answers) : Prop where
  /-- The same objects, or the same failure to enumerate them. -/
  objects : (∃ infos infos', a.objects = .ok infos ∧ b.objects = .ok infos' ∧ infos.Perm infos') ∨
    ∃ f, a.objects = .error f ∧ b.objects = .error f
  /-- The same configurations. -/
  config : b.config = a.config
  /-- The same counters. -/
  stats : b.stats = a.stats

/-- All failures among the answers have a property. -/
structure FailsBy (a : Answers) (property : Failure → Prop) : Prop where
  /-- A failure of enumeration. -/
  objects : ∀ f, a.objects = .error f → property f
  /-- The failures of lookups. -/
  config : ∀ name f, a.config name = .error f → property f
  /-- The failures to fetch counters. -/
  stats : ∀ name f, a.stats name = .error f → property f

theorem FailsBy.of_lookupFailure? {a : Answers} {property : Failure → Prop}
    (h : a.FailsBy property) {name : String} {f : Failure} (hf : a.lookupFailure? name = some f) :
    property f := by
  rw [lookupFailure?] at hf
  split at hf
  · cases hf
  · cases hf
  · case h_3 hanswer => exact Option.some.inj hf ▸ h.config name _ hanswer

theorem FailsBy.of_blocker? {a : Answers} {property : Failure → Prop} (h : a.FailsBy property)
    {m : LatencyMetric} {isolate : Bool} {c : MapConfig} {f : Failure}
    (hf : a.blocker? m isolate c = some f) : property f := by
  rw [blocker?] at hf
  split at hf
  · split at hf
    · cases hf
    · case h_2 f' hanswer =>
      split at hf
      · cases hf
      · exact Option.some.inj hf ▸ h.stats c.name _ hanswer
  · cases hf

/-- A view that always gives these answers. -/
def view (a : Answers) : View Unit where
  objects _ := (a.objects, ())
  config name _ := (a.config name, ())
  stats name _ := (a.stats name, ())

theorem steady_view (a : Answers) : a.view.Steady a () :=
  View.Gives.steady ⟨rfl, fun _ => rfl, fun _ => rfl⟩

/-- The objects in the reverse order. -/
def reversed (a : Answers) : Answers :=
  { a with objects := a.objects.map List.reverse }

theorem permuted_reversed (a : Answers) : a.Permuted a.reversed := by
  refine ⟨?_, rfl, rfl⟩
  cases h : a.objects with
  | ok infos =>
    exact .inl ⟨infos, infos.reverse, rfl, congrArg (·.map List.reverse) h,
      (List.reverse_perm infos).symm⟩
  | error f => exact .inr ⟨f, rfl, congrArg (·.map List.reverse) h⟩

end Answers

/-- After a history that injects failures to read the cluster only, all failures among the answers
of a cluster are of this kind. -/
theorem Cluster.Directory.failsBy_answers {c : Cluster} {services : Table String}
    (hdir : c.Directory services.texts) (h : c.Failing (·.isAccess = true)) :
    c.answers.FailsBy (·.isAccess = true) where
  objects f hf := by
    change c.distributedObjects = .error f at hf
    cases he : c.enumerationFailure with
    | none =>
      obtain ⟨infos, hinfos⟩ := hdir.exists_distributedObjects_iff.mpr he
      cases hf.symm.trans hinfos
    | some f' =>
      rw [distributedObjects, he] at hf
      exact Except.error.inj hf ▸ h.enumeration f' he
  config name f hf := by
    change c.mapConfig name = .error f at hf
    rw [mapConfig] at hf
    split at hf
    · cases hf
    · cases hf
      rfl
  stats name f hf := by
    change c.mapStats name = .error f at hf
    rw [mapStats] at hf
    split at hf
    · case h_1 f' hinjected => exact Except.error.inj hf ▸ h.stats name f' hinjected
    · split at hf
      · cases hf
      · cases hf
        rfl

/-! ## What does not depend on the order -/

section Permutations

variable {configs configs' : List MapConfig}

/-- In two orders of a list either nothing is found, or something in both. -/
theorem findSome?_of_perm {α β : Type} {xs ys : List α} (h : xs.Perm ys) (f : α → Option β) :
    (xs.findSome? f = none ∧ ys.findSome? f = none) ∨
      ∃ y z, xs.findSome? f = some y ∧ ys.findSome? f = some z := by
  have hsame : (xs.findSome? f).isSome = (ys.findSome? f).isSome := by
    rw [Bool.eq_iff_iff, List.findSome?_isSome_iff, List.findSome?_isSome_iff]
    exact exists_congr fun x => and_congr_left' h.mem_iff
  cases hx : xs.findSome? f with
  | none =>
    rw [hx] at hsame
    exact .inl ⟨rfl, Option.not_isSome_iff_eq_none.mp (by simp [← hsame])⟩
  | some y =>
    rw [hx] at hsame
    obtain ⟨z, hz⟩ := Option.isSome_iff_exists.mp hsame.symm
    exact .inr ⟨y, z, rfl, hz⟩

/-- What is found first row by row is found first among all pairs. -/
theorem findSome?_pairs {α β γ : Type} (xs : List α) (ys : List β) (f : α → β → Option γ) :
    (xs.flatMap fun x => ys.map fun y => (x, y)).findSome? (fun p => f p.1 p.2) =
      xs.findSome? fun x => ys.findSome? (f x) := by
  induction xs with
  | nil => rfl
  | cons x rest ih =>
    rw [List.flatMap_cons, List.findSome?_append, ih, List.findSome?_map, List.findSome?_cons]
    cases h : ys.findSome? (f x) <;> simp [Function.comp_def, h]

/-- An average does not depend on the order of the configurations. -/
theorem Answers.average_of_perm (h : configs.Perm configs') (a : Answers) (m : LatencyMetric) :
    a.average m configs = a.average m configs' := by
  have hcounters : (a.counters (configs.filter m.selects)).Perm
      (a.counters (configs'.filter m.selects)) := (h.filter _).filterMap _
  rw [average, average, LatencyMetric.sumOver, LatencyMetric.sumOver,
    (hcounters.map _).sum_eq, (hcounters.map _).sum_eq]

/-- Nor does a report. -/
theorem Report.ofIndex_of_perm (h : configs.Perm configs') (style : KeyStyle)
    (average : LatencyMetric → Int) :
    ofIndex style configs average = ofIndex style configs' average := by
  have hcount (test : MapConfig → Bool) : Trait.count configs test = Trait.count configs' test :=
    h.countP_eq test
  rw [ofIndex, ofIndex, counts, counts]
  simp only [hcount]

end Permutations

namespace Report

/-! ## Outcomes -/

/-- Two indexes of the same configurations, or two failures to read the cluster. -/
theorem result_configIndex_of_permuted {a b : Answers} (h : a.Permuted b)
    (haccess : a.FailsBy (·.isAccess = true)) (service : String) :
    (∃ configs configs', (configIndex service).result a = .ok configs ∧
      (configIndex service).result b = .ok configs' ∧ configs.Perm configs') ∨
    ∃ f g, f.isAccess = true ∧ g.isAccess = true ∧
      (configIndex service).result a = .error ⟨f, none⟩ ∧
      (configIndex service).result b = .error ⟨g, none⟩ := by
  have hlookup : b.lookupFailure? = a.lookupFailure? := by
    funext name
    rw [Answers.lookupFailure?, Answers.lookupFailure?, h.config]
  have hindexed : b.indexed? = a.indexed? := by
    funext name
    rw [Answers.indexed?, Answers.indexed?, h.config]
  rw [Answers.result_configIndex, Answers.result_configIndex, hlookup, hindexed]
  obtain ⟨infos, infos', ha, hb, hperm⟩ | ⟨f, ha, hb⟩ := h.objects
  · have hnames : (ObjectInfo.namesUnder service infos).Perm
        (ObjectInfo.namesUnder service infos') := (hperm.filter _).map _
    rw [ha, hb]
    simp only [mapError_ok, Except.bind]
    obtain ⟨hf, hg⟩ | ⟨f, g, hf, hg⟩ := findSome?_of_perm hnames a.lookupFailure?
    · rw [hf, hg]
      exact .inl ⟨_, _, rfl, rfl, hnames.filterMap _⟩
    · obtain ⟨name, -, hname⟩ := List.exists_of_findSome?_eq_some hf
      obtain ⟨name', -, hname'⟩ := List.exists_of_findSome?_eq_some hg
      rw [hf, hg]
      exact .inr ⟨f, g, haccess.of_lookupFailure? hname, haccess.of_lookupFailure? hname', rfl, rfl⟩
  · rw [ha, hb]
    exact .inr ⟨f, f, haccess.objects f ha, haccess.objects f ha, rfl, rfl⟩

/-- Nothing is in the way of an average in either order, or some configuration in both. -/
theorem blockers_of_perm {a : Answers} (haccess : a.FailsBy (·.isAccess = true))
    {configs configs' : List MapConfig} (h : configs.Perm configs') (isolate : Bool) :
    ((LatencyMetric.catalog.findSome? fun m => configs.findSome? (a.blocker? m isolate)) = none ∧
      (LatencyMetric.catalog.findSome? fun m => configs'.findSome? (a.blocker? m isolate)) = none) ∨
    ∃ f g, f.isAccess = true ∧ g.isAccess = true ∧
      (LatencyMetric.catalog.findSome? fun m => configs.findSome? (a.blocker? m isolate)) =
        some f ∧
      (LatencyMetric.catalog.findSome? fun m => configs'.findSome? (a.blocker? m isolate)) =
        some g := by
  have haccess' {cs : List MapConfig} {f : Failure}
      (hf : (LatencyMetric.catalog.findSome? fun m => cs.findSome? (a.blocker? m isolate)) =
        some f) : f.isAccess = true := by
    obtain ⟨m, -, hm⟩ := List.exists_of_findSome?_eq_some hf
    obtain ⟨c, -, hc⟩ := List.exists_of_findSome?_eq_some hm
    exact haccess.of_blocker? hc
  -- the catalog comes before the index, so the pairs of both are what is put in another order
  have hpairs : (LatencyMetric.catalog.flatMap fun m => configs.map fun c => (m, c)).Perm
      (LatencyMetric.catalog.flatMap fun m => configs'.map fun c => (m, c)) :=
    List.Perm.flatMap_left _ fun m _ => h.map _
  have hfound := findSome?_of_perm hpairs fun p => a.blocker? p.1 isolate p.2
  rw [findSome?_pairs _ _ fun m c => a.blocker? m isolate c,
    findSome?_pairs _ _ fun m c => a.blocker? m isolate c] at hfound
  exact hfound.imp_right fun ⟨f, g, hf, hg⟩ => ⟨f, g, haccess' hf, haccess' hg, hf, hg⟩

/-- Whatever the order of the objects is, cycles come to equal reports, or both are failures of the
collection, or no cycle can write an average over the index. -/
theorem result_collect_of_permuted {a b : Answers} (h : a.Permuted b)
    (haccess : a.FailsBy (·.isAccess = true)) (settings : Settings) :
    (∃ report, (collect settings).result a = .ok report ∧
      (collect settings).result b = .ok report) ∨
    (∃ doing f g, (collect settings).result a = .error (collectionFailure doing f) ∧
      (collect settings).result b = .error (collectionFailure doing g)) ∨
    (∃ configs, (configIndex settings.mapServiceName).result a = .ok configs ∧
      (∃ m ∈ LatencyMetric.catalog, Number.isWritable (a.average m configs) = false) ∧
      (collect settings).result a = .error (.ofMishap (.value (Number.tooManyDigits none))) ∧
      (collect settings).result b = .error (.ofMishap (.value (Number.tooManyDigits none)))) := by
  obtain ⟨configs, configs', ha, hb, hperm⟩ | ⟨f, g, hf, hg, ha, hb⟩ :=
    result_configIndex_of_permuted h haccess settings.mapServiceName
  · have hblocker (m : LatencyMetric) (isolate : Bool) :
        b.blocker? m isolate = a.blocker? m isolate := by
      funext c
      rw [Answers.blocker?, Answers.blocker?, h.stats]
    have haverage (m : LatencyMetric) : b.average m configs' = a.average m configs := by
      rw [a.average_of_perm hperm, Answers.average, Answers.average, Answers.counters,
        Answers.counters, h.stats]
    rw [result_collect_of_index ha, result_collect_of_index hb]
    simp only [hblocker, haverage, ← ofIndex_of_perm hperm]
    obtain ⟨hf, hg⟩ | ⟨f, g, hfa, hga, hf, hg⟩ :=
      blockers_of_perm haccess hperm settings.isolateStatsFailures
    · rw [hf, hg]
      by_cases hw : (LatencyMetric.catalog.all fun m => Number.isWritable (a.average m configs)) =
          true
      · exact .inl ⟨_, if_pos hw, if_pos hw⟩
      · obtain ⟨m, hm, hbad⟩ := List.all_eq_false.mp (Bool.eq_false_iff.mpr hw)
        exact .inr (.inr ⟨configs, ha, ⟨m, hm, Bool.eq_false_iff.mpr hbad⟩, if_neg hw, if_neg hw⟩)
    · rw [hf, hg]
      exact .inr (.inl ⟨_, f, g, congrArg _ (partFailure_of_isAccess hfa _),
        congrArg _ (partFailure_of_isAccess hga _)⟩)
  · rw [result_collect_of_index_error ha, result_collect_of_index_error hb,
      partFailure_of_isAccess hf, partFailure_of_isAccess hg]
    exact .inr (.inl ⟨_, f, g, rfl, rfl⟩)

/-! ## Cycles -/

/-- Two clusters that answer alike but for the order of their objects: under all schedules, cycles
over them end with equal reports, or both are failures of the collection, or neither can write an
average over its index. A cycle that ends with a report has asked for the counters of each
configuration of its index twice, for one average of writes and one of reads over its partition, and
for no others; and it has warned twice about each whose counters could not be fetched, and about
nothing else. -/
theorem collect_permuted {σ τ : Type} {view : View σ} {view' : View τ} {s : σ} {s' : τ}
    {a b : Answers} (h : view.Steady a s) (h' : view'.Steady b s') (hperm : a.Permuted b)
    (haccess : a.FailsBy (·.isAccess = true)) (settings : Settings)
    (schedule schedule' : List Nat) :
    let cycle := collectUnder schedule settings
    let outcome := (cycle.run view s).1.result
    let outcome' := ((collectUnder schedule' settings).run view' s').1.result
    let index := (configIndex settings.mapServiceName).result a
    ((∃ report, outcome = .ok report ∧ outcome' = .ok report) ∨
      (∃ doing f g, outcome = .error (collectionFailure doing f) ∧
        outcome' = .error (collectionFailure doing g)) ∨
      (∃ configs, index = .ok configs ∧
        (∃ m ∈ LatencyMetric.catalog, Number.isWritable (a.average m configs) = false) ∧
        outcome = .error (.ofMishap (.value (Number.tooManyDigits none))) ∧
        outcome' = .error (.ofMishap (.value (Number.tooManyDigits none))))) ∧
    ∀ report, outcome = .ok report → ∃ configs, index = .ok configs ∧
      let readings := (cycle.transcript view s).filterMap Exchange.reading?
      readings.Perm (configs.flatMap fun c => [a.reading c, a.reading c]) ∧
      readings.Perm
        (LatencyMetric.catalog.flatMap fun m => (configs.filter m.selects).map a.reading) ∧
      (∀ c ∈ configs, (LatencyMetric.catalog.filter fun m => m.selects c).map (·.label.key) =
        LatencyMetric.keysOver c.isStoreBacked) ∧
      Event.warnings (cycle.run view s).1.events =
        (configs.flatMap fun c => a.leftOut c ++ a.leftOut c : List Event) := by
  intro cycle outcome outcome' index
  obtain ⟨hevents, hresult⟩ := Query.run_of_steady h cycle
  obtain ⟨-, hresult'⟩ := Query.run_of_steady h' (collectUnder schedule' settings)
  have houtcome : outcome = (collect settings).result a :=
    hresult.trans (result_collectUnder a settings schedule)
  have houtcome' : outcome' = (collect settings).result b :=
    hresult'.trans (result_collectUnder b settings schedule')
  constructor
  · rw [houtcome, houtcome']
    exact result_collect_of_permuted hperm haccess settings
  · intro report hreport
    obtain ⟨invariant, hvouches, hs⟩ := h
    have hfollows : cycle.Follows (cycle.transcript view s) _ outcome :=
      Query.follows_transcript view cycle s
    rw [hreport] at hfollows
    obtain ⟨configs, hindex, hreadings⟩ :=
      readings_of_report hfollows (Query.forall_transcript hvouches cycle hs)
    have htwice := LatencyMetric.perm_twice (fun c => [a.reading c]) configs
    simp only [← List.map_eq_flatMap] at htwice
    refine ⟨configs, hindex, hreadings.trans htwice, hreadings,
      fun c _ => LatencyMetric.keys_filter_selects c, ?_⟩
    rw [hevents]
    exact warnings_of_report hindex (hresult.symm.trans hreport)

/-- A map in a store, a map beside the stores whose counters cannot be fetched, a map that has gone,
and an object of another service. -/
def patchy : Answers where
  objects := .ok [⟨"orders", defaultMapService⟩, ⟨"jobs", "hz:impl:queueService"⟩,
    ⟨"carts", defaultMapService⟩, ⟨"users", defaultMapService⟩]
  config name :=
    if name = "orders" then .ok (some { name := "orders", mapStore := { enabled := true } })
    else if name = "carts" then .ok (some { name := "carts" })
    else .error (.notFound name none)
  stats name :=
    if name = "orders" then .ok { totalPutLatency := 105, putOperationCount := 10 }
    else .error (.statsUnavailable name none none)

theorem failsBy_patchy : patchy.FailsBy (·.isAccess = true) := by
  refine ⟨fun f h => ?_, fun name f h => ?_, fun name f h => ?_⟩
  · cases h
  · simp only [patchy] at h
    split at h
    · cases h
    · split at h
      · cases h
      · cases h; rfl
  · simp only [patchy] at h
    split at h
    · cases h
    · cases h; rfl

/-- In both orders there is the same report; four lookups and two warnings bring it about. -/
theorem collect_permuted_patchy :
    patchy.view.Steady patchy () ∧ patchy.reversed.view.Steady patchy.reversed () ∧
      patchy.Permuted patchy.reversed ∧ patchy.FailsBy (·.isAccess = true) ∧
      (∃ report, ((collectUnder [] {}).run patchy.view ()).1.result = .ok report ∧
        ((collectUnder [] {}).run patchy.reversed.view ()).1.result = .ok report) ∧
      (((collectUnder [] {}).transcript patchy.view ()).filterMap Exchange.reading? |>.map
        (·.1)).Perm ["orders", "orders", "carts", "carts"] ∧
      (Event.warnings ((collectUnder [] {}).run patchy.view ()).1.events).card = 2 := by
  obtain ⟨hsame, hreads⟩ := collect_permuted patchy.steady_view patchy.reversed.steady_view
    patchy.permuted_reversed failsBy_patchy {} [] []
  have hreport : (((collectUnder [] {}).run patchy.view ()).1.result.toOption).isSome = true := by
    decide +kernel
  obtain ⟨report, hsome⟩ := Option.isSome_iff_exists.mp hreport
  have hok := eq_ok_of_toOption hsome
  obtain ⟨configs, hindex, hperm, -, -, hwarnings⟩ := hreads report hok
  have hconfigs : configs =
      [{ name := "orders", mapStore := { enabled := true } }, { name := "carts" }] :=
    (Except.ok.inj hindex).symm
  subst hconfigs
  refine ⟨patchy.steady_view, patchy.reversed.steady_view, patchy.permuted_reversed,
    failsBy_patchy, ?_, hperm.map (·.1), by rw [hwarnings]; rfl⟩
  obtain h | ⟨doing, f, g, h, -⟩ | ⟨-, -, -, h, -⟩ := hsame
  · exact h
  · cases hok.symm.trans h
  · cases hok.symm.trans h

/-- Over the vast cluster there is a report in neither order, and no failure of the collection. -/
theorem collect_permuted_vast :
    let a := (Cluster.after defaultMapService vast).answers
    a.Permuted a.reversed ∧
      ((collectUnder [] {}).run a.view ()).1.result =
        .error (.ofMishap (.value (Number.tooManyDigits none))) ∧
      ((collectUnder [] {}).run a.reversed.view ()).1.result =
        .error (.ofMishap (.value (Number.tooManyDigits none))) := by
  intro a
  obtain ⟨services, hdir⟩ := Cluster.services_after defaultMapService vast
  have hinjected : ∀ op ∈ vast, ∀ f, op.injected? = some f → f.isAccess = true := by
    intro op hop f hf
    obtain rfl | rfl := List.mem_pair.mp hop
    · cases hf
    · cases hf
  have haccess : a.FailsBy (·.isAccess = true) :=
    hdir.failsBy_answers (Cluster.failing_after defaultMapService hinjected)
  refine ⟨a.permuted_reversed, ?_, ?_⟩
  · rw [(Query.run_of_steady a.steady_view _).2]
    exact result_collect_vast
  · rw [(Query.run_of_steady a.reversed.steady_view _).2]
    obtain ⟨report, h, -⟩ | ⟨doing, f, g, h, -⟩ | ⟨-, -, -, -, h⟩ :=
      result_collect_of_permuted a.permuted_reversed haccess {}
    · cases result_collect_vast.symm.trans h
    · cases result_collect_vast.symm.trans h
    · exact h

end Report

end MapMetrics
