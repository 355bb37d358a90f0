import MapMetrics.Proofs.Report.Cycle
import MapMetrics.Proofs.Report.Schedule
import Mathlib.Data.List.Nodup

/-!
# The counters that averages read

Whoever answers, an aggregation reads the counters of each configuration that it selects, in order,
until it meets a failure that it does not bear; the average is that of the counters that could be
fetched. Several averages, in turn or side by side under a schedule, either have all read like this,
or one of them has met such a failure, and then there are no averages.
-/

namespace MapMetrics

variable {transcript : List Exchange} {events : List Event}

/-- Counters that are fetched, or the failure to fetch them, with the name that is asked for. -/
abbrev Reading : Type := String × Except Failure MapStats

/-- An aggregation goes on after the reading. -/
def Reading.Borne (isolate : Bool) (r : Reading) : Prop :=
  ∀ f, r.2 = .error f → (isolate && f.isIsolable) = true

/-- The readings of a transcript that holds nothing else. -/
theorem filterMap_reading? (rs : List Reading) :
    (rs.map fun r => Exchange.stats r.1 r.2).filterMap Exchange.reading? = rs := by
  rw [List.filterMap_map]
  exact List.filterMap_some

namespace LatencyMetric

/-- The totals of the counters that could be fetched. -/
def totalsOf (m : LatencyMetric) (readings : List Reading) : LatencyTotals :=
  m.sumOver (readings.filterMap fun r => r.2.toOption)

/-- The readings that an average over configurations is made of: one for each that it selects. -/
def ReadFor (m : LatencyMetric) (configs : List MapConfig) (readings : List Reading) : Prop :=
  readings.map (·.1) = (configs.filter m.selects).map (·.name)

/-- A partition has two averages, one of writes and one of reads. -/
theorem length_filter_selects (config : MapConfig) :
    (catalog.filter fun m => m.selects config).length = 2 := by
  cases h : config.isStoreBacked <;> simp [catalog, Trait.negate, h]

variable {m : LatencyMetric} {isolate : Bool} {configs : List MapConfig}

/-- An aggregation reads the counters of each selected configuration once, unless it ends with a
reading that it does not bear. -/
theorem follows_totals {t : LatencyTotals} {result : Except Raised LatencyTotals}
    (h : (m.totals isolate t configs).Follows transcript events result) :
    ∃ readings : List Reading, transcript = readings.map (fun r => .stats r.1 r.2) ∧
      ((m.ReadFor configs readings ∧ result =
          .ok (t.addCounters (m.totalsOf readings).total (m.totalsOf readings).count)) ∨
        ((∃ r ∈ readings, ¬ r.Borne isolate) ∧ ∃ r, result = .error r)) := by
  induction configs generalizing t transcript events with
  | nil =>
    cases h
    exact ⟨[], rfl, .inl ⟨rfl, rfl⟩⟩
  | cons c rest ih =>
    rw [totals_cons] at h
    by_cases hs : m.selects c = true
    · rw [if_pos hs] at h
      unfold Query.fetchStats at h
      cases h with
      | @stats _ _ answer u _ _ h =>
        cases answer with
        | ok stats =>
          obtain ⟨readings, rfl, hend⟩ := ih h
          refine ⟨(c.name, .ok stats) :: readings, rfl, hend.imp ?_ ?_⟩
          · rintro ⟨hnames, rfl⟩
            constructor
            · simpa [ReadFor, hs] using hnames
            · simp [totalsOf, sumOver, Except.toOption, LatencyTotals.addCounters, Nat.add_assoc]
          · rintro ⟨⟨r, hr, hborne⟩, hfails⟩
            exact ⟨⟨r, List.mem_cons_of_mem _ hr, hborne⟩, hfails⟩
        | error f =>
          change Query.Follows (if (isolate && f.isIsolable) = true then _ else _) _ _ _ at h
          by_cases hf : (isolate && f.isIsolable) = true
          · rw [if_pos hf] at h
            cases h with
            | note h =>
              obtain ⟨readings, rfl, hend⟩ := ih h
              refine ⟨(c.name, .error f) :: readings, rfl, hend.imp ?_ ?_⟩
              · rintro ⟨hnames, rfl⟩
                constructor
                · simpa [ReadFor, hs] using hnames
                · simp [totalsOf, Except.toOption]
              · rintro ⟨⟨r, hr, hborne⟩, hfails⟩
                exact ⟨⟨r, List.mem_cons_of_mem _ hr, hborne⟩, hfails⟩
          · rw [if_neg hf] at h
            cases h
            exact ⟨[(c.name, .error f)], rfl, .inr ⟨⟨_, List.mem_singleton_self _,
              fun hborne => hf (hborne f rfl)⟩, _, rfl⟩⟩
    · rw [if_neg hs] at h
      obtain ⟨readings, rfl, hend⟩ := ih h
      refine ⟨readings, rfl, hend.imp_left ?_⟩
      rintro ⟨hnames, rfl⟩
      exact ⟨by simpa [ReadFor, hs] using hnames, rfl⟩

/-- An average is that of the counters that it reads. -/
theorem follows_average {result : Except Raised Int}
    (h : (m.average isolate configs).Follows transcript events result) :
    ∃ readings : List Reading, transcript = readings.map (fun r => .stats r.1 r.2) ∧
      ((m.ReadFor configs readings ∧ result = .ok (m.totalsOf readings).average) ∨
        ((∃ r ∈ readings, ¬ r.Borne isolate) ∧ ∃ r, result = .error r)) := by
  rcases Query.Follows.of_bind h with ⟨r, ht, rfl⟩ | ⟨totals, t, u, es, fs, ht, hend, rfl, rfl⟩
  · obtain ⟨readings, rfl, ⟨-, hr⟩ | hfails⟩ := follows_totals ht
    · cases hr
    · exact ⟨readings, rfl, .inr ⟨hfails.1, _, rfl⟩⟩
  · obtain ⟨readings, rfl, ⟨hnames, hr⟩ | ⟨-, r, hr⟩⟩ := follows_totals ht
    · cases hr
      cases hend
      exact ⟨readings, List.append_nil _, .inl ⟨hnames, by simp [LatencyTotals.addCounters]⟩⟩
    · cases hr

end LatencyMetric

namespace Report

/-- A part of a cycle reads what its query reads, and has the same result if there is one. -/
theorem follows_part {α : Type} {doing : String} {q : Query α} {result : Except Raised α}
    (h : (part doing q).Follows transcript events result) :
    ∃ events attempted, q.Follows transcript events attempted ∧
      ∀ x, attempted = .ok x ↔ result = .ok x := by
  obtain ⟨attempted, t, u, es, fs, hq, hend, rfl, rfl⟩ := Query.Follows.of_attempt_bind h
  cases attempted with
  | ok x =>
    cases hend
    exact ⟨es, _, (List.append_nil t).symm ▸ hq, fun y => Iff.rfl⟩
  | error r =>
    have hfailed : u = [] ∧ ∃ r', result = .error r' := by
      unfold failed at hend
      by_cases hr : r.failure.isAccess = true
      · simp only [hr, if_true] at hend
        cases hend with
        | note hend => cases hend; exact ⟨rfl, _, rfl⟩
      · simp only [hr] at hend
        cases hend
        exact ⟨rfl, _, rfl⟩
    obtain ⟨rfl, r', rfl⟩ := hfailed
    rw [List.append_nil]
    exact ⟨es, _, hq, fun y => by simp⟩

theorem nodup_catalog : LatencyMetric.catalog.Nodup :=
  List.Nodup.of_map (fun m => m.label.key) (by decide)

/-- What is paired with distinct items is given by a function of them. -/
private theorem exists_map_eq_of_forall₂ {α β : Type} {R : α → β → Prop} {xs : List α}
    {ys : List β} (hxs : xs.Nodup) (h : List.Forall₂ R xs ys) (d : β) :
    ∃ f : α → β, (∀ x ∈ xs, R x (f x)) ∧ xs.map f = ys := by
  classical
  -- an item is paired with what stands at its own position
  have hat (i : Nat) (hx : i < xs.length) (hy : i < ys.length) :
      ys.getD (xs.idxOf xs[i]) d = ys[i] := by
    rw [hxs.idxOf_getElem i hx, List.getD_eq_getElem?_getD, List.getElem?_eq_getElem hy,
      Option.getD_some]
  refine ⟨fun x => ys.getD (xs.idxOf x) d, fun x hmem => ?_, ?_⟩
  · obtain ⟨i, hx, rfl⟩ := List.mem_iff_getElem.mp hmem
    have hy : i < ys.length := h.length_eq ▸ hx
    change R xs[i] (ys.getD (xs.idxOf xs[i]) d)
    rw [hat i hx hy]
    exact h.get hx hy
  · refine List.ext_getElem (by rw [List.length_map, h.length_eq]) fun i hi hy => ?_
    rw [List.getElem_map]
    exact hat i _ hy

variable {isolate : Bool} {configs : List MapConfig}

/-- The courses of averages that do not fail consist of the counters that they read. -/
theorem readings_of_takes {ms : List LatencyMetric} (hms : ms.Nodup)
    {courses : List (Query.Course Int)}
    (h : List.Forall₂ Query.Takes (ms.map fun m => m.average isolate configs) courses)
    (hok : ∀ c ∈ courses, ∃ x, c.result = .ok x) :
    ∃ readings : LatencyMetric → List Reading, (∀ m ∈ ms, m.ReadFor configs (readings m)) ∧
      courses.flatMap (·.transcript) =
        ms.flatMap (fun m => (readings m).map fun r => .stats r.1 r.2) ∧
      Query.results courses = (ms.map fun m => (m.totalsOf (readings m)).average).map .ok := by
  obtain ⟨course, htakes, rfl⟩ := exists_map_eq_of_forall₂ hms (List.forall₂_map_left_iff.mp h)
    ⟨[], [], .ok 0⟩
  let readings (m : LatencyMetric) : List Reading :=
    (course m).transcript.filterMap Exchange.reading?
  have hread (m : LatencyMetric) (hm : m ∈ ms) :
      (course m).transcript = (readings m).map (fun r => .stats r.1 r.2) ∧
        m.ReadFor configs (readings m) ∧
        (course m).result = .ok (m.totalsOf (readings m)).average := by
    obtain ⟨own, ht, hend⟩ := LatencyMetric.follows_average (htakes m hm)
    have hreadings : readings m = own := by
      change (course m).transcript.filterMap Exchange.reading? = own
      rw [ht, filterMap_reading?]
    rcases hend with ⟨hown, hresult⟩ | ⟨-, r, hresult⟩
    · rw [hreadings]
      exact ⟨ht, hown, hresult⟩
    · obtain ⟨x, hx⟩ := hok _ (List.mem_map_of_mem hm)
      rw [hresult] at hx
      cases hx
  refine ⟨readings, fun m hm => (hread m hm).2.1, ?_, ?_⟩
  · rw [List.flatMap_map]
    exact List.flatMap_congr fun m hm => (hread m hm).1
  · rw [Query.results, List.map_map, List.map_map]
    exact List.map_congr_left fun m hm => (hread m hm).2.2

/-- Every course is that of an average. -/
private theorem exists_takes_of_mem {ms : List LatencyMetric} {courses : List (Query.Course Int)}
    (h : List.Forall₂ Query.Takes (ms.map fun m => m.average isolate configs) courses)
    {c : Query.Course Int} (hc : c ∈ courses) :
    ∃ m : LatencyMetric, (m.average isolate configs).Takes c := by
  obtain ⟨i, hi, rfl⟩ := List.mem_iff_getElem.mp hc
  have htakes := h.get (h.length_eq ▸ hi) hi
  rw [List.get_eq_getElem, List.getElem_map] at htakes
  exact ⟨_, htakes⟩

/-- The course of an average that fails has a reading that is not borne. -/
theorem exists_not_borne_of_takes {m : LatencyMetric} {c : Query.Course Int} {r : Raised}
    (h : (m.average isolate configs).Takes c) (hr : c.result = .error r) :
    ∃ name answer, .stats name answer ∈ c.transcript ∧ ¬ Reading.Borne isolate (name, answer) := by
  obtain ⟨readings, ht, ⟨-, hok⟩ | ⟨⟨reading, hreading, hborne⟩, -⟩⟩ :=
    LatencyMetric.follows_average h
  · rw [hr] at hok
    cases hok
  · exact ⟨reading.1, reading.2, ht ▸ List.mem_map_of_mem hreading, hborne⟩

/-- Several results are not all there when one of them is a failure. -/
theorem mapM_id_error {α : Type} {r : Raised} {xs : List (Except Raised α)} (h : .error r ∈ xs) :
    ∃ first, xs.mapM id = .error first := by
  induction xs with
  | nil => cases h
  | cons x rest ih =>
    rw [List.mapM_cons]
    cases x with
    | error first => exact ⟨first, rfl⟩
    | ok x =>
      obtain ⟨first, hfirst⟩ := ih ((List.mem_cons.mp h).resolve_left (by simp))
      exact ⟨first, by rw [hfirst]; rfl⟩

/-- Under every schedule the averages read the counters of each selected configuration once for each
average, unless one of them meets a reading that it does not bear. -/
theorem follows_averagesUnder {schedule : List Nat} {settings : Settings}
    {result : Except Raised (List Int)}
    (h : (averagesUnder schedule settings configs).Follows transcript events result) :
    (∃ readings : LatencyMetric → List Reading,
      (∀ m ∈ LatencyMetric.catalog, m.ReadFor configs (readings m)) ∧
      transcript.Perm (LatencyMetric.catalog.flatMap fun m =>
        (readings m).map fun r => .stats r.1 r.2) ∧
      result = .ok (LatencyMetric.catalog.map fun m => (m.totalsOf (readings m)).average)) ∨
    (∃ name answer, .stats name answer ∈ transcript ∧
      ¬ Reading.Borne settings.isolateStatsFailures (name, answer)) ∧ ∃ r, result = .error r := by
  unfold averagesUnder at h
  by_cases hp : settings.parallelAggregation = true
  · simp only [hp, if_true] at h
    rcases h.of_bind with ⟨r, hi, rfl⟩ | ⟨outcomes, t, u, es, fs, hi, hend, rfl, rfl⟩
    · obtain ⟨courses, -, hr⟩ := follows_interleaved hi
      cases hr
    · obtain ⟨courses, ⟨htakes, ht, -⟩, hr⟩ := follows_interleaved hi
      cases hr
      obtain ⟨rfl, rfl, rfl⟩ := hend.of_ofExcept
      rw [List.append_nil]
      by_cases hok : ∀ c ∈ courses, ∃ x, c.result = .ok x
      · obtain ⟨readings, hreadings, htranscripts, hresults⟩ :=
          readings_of_takes nodup_catalog htakes hok
        exact .inl ⟨readings, hreadings, htranscripts ▸ ht, by rw [hresults, mapM_id_ok]⟩
      · obtain ⟨c, hc⟩ := not_forall.mp hok
        obtain ⟨hc, hnot⟩ := Classical.not_imp.mp hc
        cases hr : c.result with
        | ok x => exact absurd ⟨x, hr⟩ hnot
        | error r =>
          obtain ⟨m, htakes⟩ := exists_takes_of_mem htakes hc
          obtain ⟨name, answer, hmem, hborne⟩ := exists_not_borne_of_takes htakes hr
          have hread : .stats name answer ∈ t :=
            ht.mem_iff.mpr (List.mem_flatMap.mpr ⟨c, hc, hmem⟩)
          have hresult : .error r ∈ Query.results courses := hr ▸ List.mem_map_of_mem hc
          exact .inr ⟨⟨name, answer, hread, hborne⟩, mapM_id_error hresult⟩
  · simp only [hp] at h
    rcases follows_inTurn h with ⟨courses, xs, ⟨htakes, ht, -⟩, hxs, rfl⟩ |
      ⟨q, hq, c, r, hc, hr, hsub, rfl⟩
    · have hok : ∀ c ∈ courses, ∃ x, c.result = .ok x := by
        intro c hc
        have hresult : c.result ∈ xs.map .ok := by
          rw [← hxs]
          exact List.mem_map_of_mem hc
        obtain ⟨x, -, hx⟩ := List.mem_map.mp hresult
        exact ⟨x, hx.symm⟩
      obtain ⟨readings, hreadings, htranscripts, hresults⟩ :=
        readings_of_takes nodup_catalog htakes hok
      have hinjective : Function.Injective (List.map (Except.ok (ε := Raised) (α := Int))) :=
        List.map_injective_iff.mpr fun x y => Except.ok.inj
      rw [hinjective (hxs.symm.trans hresults)]
      exact .inl ⟨readings, hreadings, htranscripts ▸ ht, rfl⟩
    · obtain ⟨m, -, rfl⟩ := List.mem_map.mp hq
      obtain ⟨name, answer, hmem, hborne⟩ := exists_not_borne_of_takes hc hr
      exact .inr ⟨⟨name, answer, hsub hmem, hborne⟩, r, rfl⟩

end Report

end MapMetrics
