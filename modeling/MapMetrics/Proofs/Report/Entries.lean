import MapMetrics.Proofs.Number.Decimal
import MapMetrics.Proofs.Report.Readings

/-!
# The entries of a report

Whoever answers a cycle, and however the answers go together, a report that it comes to has one
entry for every label of the two catalogs, in their order. The text of each is that of an integer:
a trait counts no more maps than there are objects, and an average is written only if it can be.
-/

namespace MapMetrics

variable {transcript : List Exchange} {events : List Event}

/-- Of each name at most one configuration is found. -/
theorem length_le_of_follows_liveConfigs {names : List String} {configs : List MapConfig}
    (h : (liveConfigs names).Follows transcript events (.ok configs)) :
    configs.length ≤ names.length := by
  induction names generalizing transcript events configs with
  | nil =>
    cases h
    exact Nat.le_refl _
  | cons name rest ih =>
    rcases Query.Follows.of_bind h with ⟨r, -, hr⟩ | ⟨found, t, u, es, fs, -, hrest, -, -⟩
    · cases hr
    · rcases hrest.of_bind with ⟨r, -, hr⟩ | ⟨others, v, w, fs, gs, hothers, hend, -, -⟩
      · cases hr
      · cases hend
        have hle := ih hothers
        have hfound : found.toList.length ≤ 1 := by cases found <;> simp
        rw [List.length_append, List.length_cons]
        omega

/-- An index starts from the objects, and has no more configurations than there are objects. -/
theorem length_le_of_follows_configIndex {service : String} {configs : List MapConfig}
    (h : (configIndex service).Follows transcript events (.ok configs)) :
    ∃ infos, transcript.head? = some (.objects (.ok infos)) ∧ configs.length ≤ infos.length := by
  unfold configIndex Query.allObjects at h
  cases h with
  | @objects _ answer rest _ _ h =>
    cases answer with
    | error f => cases h
    | ok infos =>
      refine ⟨infos, rfl, ?_⟩
      change Query.Follows (liveConfigs ((infos.filter fun info =>
        info.serviceName == service).map (·.name)) >>= _) _ _ _ at h
      rcases h.of_bind with ⟨r, -, hr⟩ | ⟨found, t, u, es, fs, hfound, hend, -, -⟩
      · cases hr
      · have hle := length_le_of_follows_liveConfigs hfound
        cases hend with
        | note hend =>
          cases hend
          refine hle.trans ?_
          rw [List.length_map]
          exact List.length_filter_le _ _

namespace Report

/-- A report is that of an index over the objects that were enumerated first, with averages that can
be written. -/
theorem eq_ofIndex_of_follows {settings : Settings} {report : Report}
    (h : (collect settings).Follows transcript events (.ok report)) :
    ∃ infos configs average, transcript.head? = some (.objects (.ok infos)) ∧
      configs.length ≤ infos.length ∧
      (∀ m ∈ LatencyMetric.catalog, Number.isWritable (average m) = true) ∧
      report = ofIndex settings.keyStyle configs average := by
  rw [← collectUnder_nil] at h
  unfold collectUnder collectWith at h
  rcases h.of_bind with ⟨r, -, hr⟩ | ⟨configs, t, u, es, fs, hi, hrest, rfl, rfl⟩
  · cases hr
  obtain ⟨_, attempted, hindex, hok⟩ := follows_part hi
  obtain rfl := (hok configs).mpr rfl
  obtain ⟨infos, hhead, hle⟩ := length_le_of_follows_configIndex hindex
  rcases hrest.of_bind with ⟨r, -, hr⟩ | ⟨found, v, w, fs, gs, ha, hend, rfl, rfl⟩
  · cases hr
  obtain ⟨_, attempted, haverages, hok⟩ := follows_part ha
  obtain rfl := (hok found).mpr rfl
  rcases follows_averagesUnder haverages with ⟨readings, -, -, hfound⟩ | ⟨-, r, hr⟩
  · obtain rfl := Except.ok.inj hfound
    refine ⟨infos, configs, fun m => (m.totalsOf (readings m)).average,
      by rw [List.head?_append, hhead]; rfl, hle, ?_⟩
    have hentries := entries_catalog settings.keyStyle fun m => (m.totalsOf (readings m)).average
    by_cases hw : (LatencyMetric.catalog.all fun m =>
        Number.isWritable (m.totalsOf (readings m)).average) = true
    · rw [if_pos hw] at hentries
      rw [hentries] at hend
      cases hend with
      | note hend =>
        cases hend
        exact ⟨List.all_eq_true.mp hw, rfl⟩
    · rw [if_neg hw] at hentries
      rw [hentries] at hend
      cases hend
  · cases hr

/-- An entry of a report, under the key of one of the labels, with the text of an integer. -/
inductive Entry (style : KeyStyle) : String × String → Prop where
  /-- The count of a trait. -/
  | count {t : Trait} (listed : t ∈ Trait.catalog) {n : Int} (writable : Number.isWritable n = true) :
      Entry style (t.label.reportKey style, toString n)
  /-- An average. -/
  | average {m : LatencyMetric} (listed : m ∈ LatencyMetric.catalog) {n : Int}
      (writable : Number.isWritable n = true) :
      Entry style (m.label.reportKey style, toString n)

/-- Less can be written where more can. -/
theorem isWritable_of_le {m n : Nat} (hle : m ≤ n) (h : Number.isWritable n = true) :
    Number.isWritable m = true := by
  rw [Number.isWritable, decide_eq_true_iff, Int.natAbs_natCast] at *
  exact hle.trans_lt h

/-- A report over objects whose number can be written consists of entries. -/
theorem entry_of_follows {settings : Settings} {report : Report}
    (h : (collect settings).Follows transcript events (.ok report))
    (hobjects : ∀ infos, transcript.head? = some (.objects (.ok infos)) →
      Number.isWritable infos.length = true) :
    report.map (·.1) = keys settings.keyStyle ∧ ∀ e ∈ report, Entry settings.keyStyle e := by
  obtain ⟨infos, configs, average, hhead, hle, hwritable, rfl⟩ := eq_ofIndex_of_follows h
  refine ⟨keys_ofIndex _ _ _, fun e he => ?_⟩
  rcases List.mem_append.mp he with hcount | haverage
  · obtain ⟨t, ht, rfl⟩ := List.mem_map.mp hcount
    have hcounted : Trait.count configs t.holds ≤ configs.length := List.countP_le_length
    have htext (n : Nat) : toString n = toString (n : Int) := rfl
    rw [htext]
    exact .count ht (isWritable_of_le (hcounted.trans hle) (hobjects infos hhead))
  · obtain ⟨m, hm, rfl⟩ := List.mem_map.mp haverage
    exact .average hm (hwritable m hm)

end Report

end MapMetrics
