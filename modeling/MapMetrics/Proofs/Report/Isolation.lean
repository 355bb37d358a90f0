import MapMetrics.Proofs.Query.Evaluation
import MapMetrics.Proofs.Report.Latency

/-!
# Failures that an average bears

An aggregation asks for the counters of the maps that it selects, one after another, and for those
of no others. A map that cannot be read either is left out or ends the aggregation, so that an
average is one over the maps that can be read, or the failure of the first map that may not be left
out. Leaving a map out is the same as taking counters of zero for it.
-/

namespace MapMetrics

/-- A source of counters whose answers are fixed. -/
abbrev Fetcher : Type := String → Except Failure MapStats

namespace Fetcher

/-- The view of a fetcher, whose state is the names that it has been asked for, in order. -/
def view (fetch : Fetcher) : View (List String) where
  objects asked := (.ok [], asked)
  config _ asked := (.ok none, asked)
  stats name asked := (fetch name, asked ++ [name])

/-- The answers of a fetcher. -/
def answers (fetch : Fetcher) : Answers :=
  ⟨.ok [], fun _ => .ok none, fetch⟩

/-- What an average comes to. -/
def average (fetch : Fetcher) (m : LatencyMetric) (isolate : Bool) (configs : List MapConfig) :
    Except Raised Int :=
  ((m.average isolate configs).run fetch.view []).1.result

/-- The names that an average asks for, in order. -/
def asked (fetch : Fetcher) (m : LatencyMetric) (isolate : Bool) (configs : List MapConfig) :
    List String :=
  ((m.average isolate configs).run fetch.view []).2

/-- The fetcher with some counters in the place of each failure that can be isolated. -/
def filled (fetch : Fetcher) (stats : MapStats) : Fetcher := fun name =>
  match fetch name with
  | .ok found => .ok found
  | .error f => if f.isIsolable then .ok stats else .error f

/-- The failure with which a selected map ends an aggregation. -/
def fatal? (fetch : Fetcher) (isolate : Bool) (c : MapConfig) : Option Failure :=
  match fetch c.name with
  | .ok _ => none
  | .error f => if isolate && f.isIsolable then none else some f

/-- The totals of the counters of those maps that can be read. -/
def totals (fetch : Fetcher) (m : LatencyMetric) (configs : List MapConfig) : LatencyTotals :=
  m.sumOver (fetch.answers.counters configs)

variable (fetch : Fetcher) (m : LatencyMetric) (isolate : Bool)

theorem fatal?_eq_some_iff {c : MapConfig} {f : Failure} :
    fetch.fatal? isolate c = some f ↔
      fetch c.name = .error f ∧ ¬ (isolate = true ∧ f.isIsolable = true) := by
  rw [fatal?]
  cases fetch c.name with
  | ok stats => simp
  | error g =>
    by_cases hi : (isolate && g.isIsolable) = true
    · simp only [hi, if_true, reduceCtorEq, Except.error.injEq, false_iff, not_and]
      rintro rfl
      simpa using hi
    · simp only [hi, Bool.false_eq_true, if_false, Option.some.injEq, Except.error.injEq]
      constructor
      · rintro rfl
        simpa using hi
      · exact And.left

/-- With failures isolated, a map ends no aggregation when its failure can be isolated. -/
theorem fatal?_true_eq_none_iff {c : MapConfig} :
    fetch.fatal? true c = none ↔ ∀ f, fetch c.name = .error f → f.isIsolable = true := by
  rw [Option.eq_none_iff_forall_ne_some]
  simp only [ne_eq, fatal?_eq_some_iff, true_and, not_and, not_not]

/-- Without isolation, a map ends no aggregation when it can be read. -/
theorem fatal?_false_eq_none_iff {c : MapConfig} :
    fetch.fatal? false c = none ↔ ∃ stats, fetch c.name = .ok stats := by
  rw [fatal?]
  cases fetch c.name <;> simp

@[simp] theorem totals_nil : fetch.totals m [] = {} := rfl

/-- A map that can be read adds its counters. -/
theorem totals_cons_of_ok {c : MapConfig} {stats : MapStats} (h : fetch c.name = .ok stats)
    (rest : List MapConfig) : fetch.totals m (c :: rest) =
      (fetch.totals m rest).addCounters (m.latencyOf stats) (m.countOf stats) := by
  simp [totals, answers, Answers.counters, h, Except.toOption, LatencyMetric.sumOver,
    LatencyTotals.addCounters, Nat.add_comm]

/-- A map that cannot be read adds nothing. -/
theorem totals_cons_of_error {c : MapConfig} {f : Failure} (h : fetch c.name = .error f)
    (rest : List MapConfig) : fetch.totals m (c :: rest) = fetch.totals m rest := by
  simp [totals, answers, Answers.counters, h, Except.toOption]

/-! ## One aggregation -/

/-- Maps that are not selected make no difference to an aggregation. -/
theorem totals_filter (t : LatencyTotals) (configs : List MapConfig) :
    m.totals isolate t (configs.filter m.selects) = m.totals isolate t configs := by
  induction configs generalizing t with
  | nil => rfl
  | cons c rest ih =>
    by_cases hs : m.selects c = true
    · simp only [List.filter_cons_of_pos hs, LatencyMetric.totals_cons, ih]
    · rw [List.filter_cons_of_neg hs, ih, LatencyMetric.totals_cons, if_neg hs]

/-- Maps that end no aggregation add what can be read of them, and the rest goes on from there. -/
theorem evaluate_totals_append {before : List MapConfig} (hsel : ∀ c ∈ before, m.selects c = true)
    (hborne : ∀ c ∈ before, fetch.fatal? isolate c = none) (rest : List MapConfig)
    (t : LatencyTotals) (names : List String) :
    (m.totals isolate t (before ++ rest)).evaluate fetch.view names =
      (m.totals isolate (t.addCounters (fetch.totals m before).total (fetch.totals m before).count)
        rest).evaluate fetch.view (names ++ before.map (·.name)) := by
  induction before generalizing t names with
  | nil => simp [LatencyTotals.addCounters]
  | cons c others ih =>
    obtain ⟨hc, hothers⟩ := List.forall_mem_cons.mp hsel
    obtain ⟨hb, hrest⟩ := List.forall_mem_cons.mp hborne
    rw [List.cons_append, LatencyMetric.totals_cons, if_pos hc, Query.evaluate_bind]
    have hasked : (Query.fetchStats c.name).evaluate fetch.view names =
        (.ok (fetch c.name), names ++ [c.name]) := rfl
    simp only [hasked]
    cases hfetch : fetch c.name with
    | ok stats =>
      simp only [ih hothers hrest, totals_cons_of_ok fetch m hfetch]
      simp [LatencyTotals.addCounters, Nat.add_comm, Nat.add_left_comm]
    | error f =>
      have hi : (isolate && f.isIsolable) = true := by simpa [fatal?, hfetch] using hb
      simp only [hi, if_true, Query.evaluate_bind, Query.evaluate_report, ih hothers hrest,
        totals_cons_of_error fetch m hfetch]
      simp

/-- A map whose failure is not borne ends the aggregation. -/
theorem evaluate_totals_of_fatal {c : MapConfig} {f : Failure} (hsel : m.selects c = true)
    (hf : fetch.fatal? isolate c = some f) (rest : List MapConfig) (t : LatencyTotals)
    (names : List String) : (m.totals isolate t (c :: rest)).evaluate fetch.view names =
      (.error ⟨f, none⟩, names ++ [c.name]) := by
  obtain ⟨hfetch, hi⟩ := (fatal?_eq_some_iff fetch isolate).mp hf
  have hb : (isolate && f.isIsolable) = false := by simpa using hi
  rw [LatencyMetric.totals_cons, if_pos hsel, Query.evaluate_bind]
  have hasked : (Query.fetchStats c.name).evaluate fetch.view names =
      (.ok (fetch c.name), names ++ [c.name]) := rfl
  simp only [hasked, hfetch, hb]
  rfl

/-- Where all selected maps are borne, an average is over those that can be read, and all selected
maps are asked for. -/
theorem average_of_borne {configs : List MapConfig}
    (h : ∀ c ∈ configs.filter m.selects, fetch.fatal? isolate c = none) :
    fetch.average m isolate configs =
        .ok (fetch.totals m (configs.filter m.selects)).average ∧
      fetch.asked m isolate configs = (configs.filter m.selects).map (·.name) := by
  have hrun := evaluate_totals_append fetch m isolate
    (fun c hc => (List.mem_filter.mp hc).2) h [] {} []
  rw [List.append_nil, totals_filter] at hrun
  have heval : (m.average isolate configs).evaluate fetch.view [] =
      (.ok (fetch.totals m (configs.filter m.selects)).average,
        (configs.filter m.selects).map (·.name)) := by
    rw [LatencyMetric.average, Query.evaluate_bind_pure, hrun]
    simp [LatencyMetric.totals, LatencyTotals.addCounters, Query.evaluate, Query.run, Except.map]
  exact Prod.mk.inj heval

/-- Where a selected map is not borne, the first such map ends the average, and no map behind it is
asked for. -/
theorem average_of_fatal {configs before after : List MapConfig} {c : MapConfig} {f : Failure}
    (hsplit : configs.filter m.selects = before ++ c :: after)
    (hborne : ∀ b ∈ before, fetch.fatal? isolate b = none) (hf : fetch.fatal? isolate c = some f) :
    fetch.average m isolate configs = .error ⟨f, none⟩ ∧
      fetch.asked m isolate configs = (before ++ [c]).map (·.name) := by
  have hsel (b : MapConfig) (hb : b ∈ before ++ c :: after) : m.selects b = true := by
    rw [← hsplit] at hb
    exact (List.mem_filter.mp hb).2
  have heval : (m.average isolate configs).evaluate fetch.view [] =
      (.error ⟨f, none⟩, (before ++ [c]).map (·.name)) := by
    rw [LatencyMetric.average, Query.evaluate_bind_pure, ← totals_filter, hsplit,
      evaluate_totals_append fetch m isolate (fun b hb => hsel b (List.mem_append_left _ hb)) hborne,
      evaluate_totals_of_fatal fetch m isolate (hsel c (by simp)) hf]
    simp [Except.map]
  exact Prod.mk.inj heval

/-- An average is there, or there is a first selected map that is not borne. -/
theorem average_cases (configs : List MapConfig) :
    (∀ c ∈ configs.filter m.selects, fetch.fatal? isolate c = none) ∨
      ∃ before c after f, configs.filter m.selects = before ++ c :: after ∧
        (∀ b ∈ before, fetch.fatal? isolate b = none) ∧ fetch.fatal? isolate c = some f := by
  cases h : (configs.filter m.selects).findSome? (fetch.fatal? isolate) with
  | none => exact Or.inl (List.findSome?_eq_none_iff.mp h)
  | some f =>
    obtain ⟨before, c, after, hsplit, hc, hbefore⟩ := List.findSome?_eq_some_iff.mp h
    exact Or.inr ⟨before, c, after, f, hsplit, hbefore, hc⟩

/-- An average fails exactly with the failure of the first selected map that is not borne. -/
theorem average_eq_error_iff {configs : List MapConfig} {r : Raised} :
    fetch.average m isolate configs = .error r ↔
      ∃ before c after f, configs.filter m.selects = before ++ c :: after ∧
        (∀ b ∈ before, fetch.fatal? isolate b = none) ∧ fetch.fatal? isolate c = some f ∧
        r = ⟨f, none⟩ := by
  constructor
  · intro h
    rcases average_cases fetch m isolate configs with
      hall | ⟨before, c, after, f, hsplit, hborne, hf⟩
    · rw [(average_of_borne fetch m isolate hall).1] at h
      cases h
    · rw [(average_of_fatal fetch m isolate hsplit hborne hf).1] at h
      exact ⟨before, c, after, f, hsplit, hborne, hf, (Except.error.inj h).symm⟩
  · rintro ⟨before, c, after, f, hsplit, hborne, hf, rfl⟩
    exact (average_of_fatal fetch m isolate hsplit hborne hf).1

/-- An average is there exactly when all selected maps are borne. -/
theorem average_eq_ok_iff {configs : List MapConfig} {n : Int} :
    fetch.average m isolate configs = .ok n ↔
      (∀ c ∈ configs.filter m.selects, fetch.fatal? isolate c = none) ∧
        n = (fetch.totals m (configs.filter m.selects)).average := by
  constructor
  · intro h
    rcases average_cases fetch m isolate configs with
      hall | ⟨before, c, after, f, hsplit, hborne, hf⟩
    · rw [(average_of_borne fetch m isolate hall).1] at h
      exact ⟨hall, (Except.ok.inj h).symm⟩
    · rw [(average_of_fatal fetch m isolate hsplit hborne hf).1] at h
      cases h
  · rintro ⟨hall, rfl⟩
    exact (average_of_borne fetch m isolate hall).1

/-! ## Without the maps that fail -/

/-- The maps that can be read. -/
def readable (configs : List MapConfig) : List MapConfig :=
  configs.filter fun c => (fetch c.name).isOk

/-- Maps that cannot be read make no difference to totals. -/
theorem totals_readable (configs : List MapConfig) :
    fetch.totals m (fetch.readable configs) = fetch.totals m configs := by
  induction configs with
  | nil => rfl
  | cons c rest ih =>
    cases hfetch : fetch c.name with
    | ok stats =>
      have hkept : fetch.readable (c :: rest) = c :: fetch.readable rest :=
        List.filter_cons_of_pos (by simp [hfetch, Except.isOk, Except.toBool])
      rw [hkept, totals_cons_of_ok fetch m hfetch, totals_cons_of_ok fetch m hfetch, ih]
    | error f =>
      have hdropped : fetch.readable (c :: rest) = fetch.readable rest :=
        List.filter_cons_of_neg (by simp [hfetch, Except.isOk, Except.toBool])
      rw [hdropped, totals_cons_of_error fetch m hfetch, ih]

/-- Counters of zero add as much as a map that is left out. -/
theorem totals_filled {zero : MapStats} (hlatency : m.latencyOf zero = 0)
    (hcount : m.countOf zero = 0) (configs : List MapConfig) :
    (fetch.filled zero).totals m configs = fetch.totals m configs := by
  induction configs with
  | nil => rfl
  | cons c rest ih =>
    cases hfetch : fetch c.name with
    | ok stats =>
      have hsame : fetch.filled zero c.name = .ok stats := by simp [filled, hfetch]
      rw [totals_cons_of_ok _ m hsame, totals_cons_of_ok fetch m hfetch, ih]
    | error f =>
      rw [totals_cons_of_error fetch m hfetch]
      by_cases hi : f.isIsolable = true
      · have hzero : fetch.filled zero c.name = .ok zero := by simp [filled, hfetch, hi]
        rw [totals_cons_of_ok _ m hzero, ih, hlatency, hcount]
        rfl
      · have hsame : fetch.filled zero c.name = .error f := by simp [filled, hfetch, hi]
        rw [totals_cons_of_error _ m hsame, ih]

/-- Where failures are replaced by counters, a map is borne as before. -/
theorem fatal?_filled (stats : MapStats) (c : MapConfig) :
    (fetch.filled stats).fatal? true c = fetch.fatal? true c := by
  rw [fatal?, fatal?, filled]
  cases fetch c.name with
  | ok found => rfl
  | error f => by_cases hi : f.isIsolable = true <;> simp [hi]

/-- All readable maps are borne. -/
theorem fatal?_of_mem_readable {configs : List MapConfig} {c : MapConfig}
    (h : c ∈ fetch.readable configs) : fetch.fatal? isolate c = none := by
  have hok := (List.mem_filter.mp h).2
  rw [fatal?]
  cases hfetch : fetch c.name with
  | ok stats => rfl
  | error f => simp [hfetch, Except.isOk, Except.toBool] at hok

/-- An average over some maps with failures isolated, and without. Isolated, it is there exactly
when every selected map can be read or fails in a way that can be isolated; it is then the average
over the selected maps that can be read, and that with counters of zero in the place of the
failures. Otherwise it fails as the first selected map whose failure cannot be isolated. Without
isolation it fails as the first selected map that cannot be read, and comes to the same where there
is none. The selected maps are asked for once each and in order, all of them or up to the one that
ends the average, and no others. -/
theorem average_isolated (m : LatencyMetric) (fetch : Fetcher) (configs : List MapConfig) :
    let matching := configs.filter m.selects
    let isolated := fetch.average m true configs
    let strict := fetch.average m false configs
    ((∃ n, isolated = .ok n) ↔
      ∀ c ∈ matching, ∀ f, fetch c.name = .error f → f.isIsolable = true) ∧
    (∀ n, isolated = .ok n → fetch.average m true (fetch.readable matching) = .ok n ∧
      ∀ zero, m.latencyOf zero = 0 → m.countOf zero = 0 →
        (fetch.filled zero).average m true configs = .ok n) ∧
    (∀ r, isolated = .error r ↔ ∃ before c after f, matching = before ++ c :: after ∧
      (∀ b ∈ before, ∀ g, fetch b.name = .error g → g.isIsolable = true) ∧
      fetch c.name = .error f ∧ f.isIsolable = false ∧ r = ⟨f, none⟩) ∧
    (∀ r, strict = .error r ↔ ∃ before c after f, matching = before ++ c :: after ∧
      (∀ b ∈ before, ∃ stats, fetch b.name = .ok stats) ∧
      fetch c.name = .error f ∧ r = ⟨f, none⟩) ∧
    ((∀ c ∈ matching, ∃ stats, fetch c.name = .ok stats) → strict = isolated) ∧
    ∀ isolate, fetch.asked m isolate configs <+: matching.map (·.name) ∧
      ∀ n, fetch.average m isolate configs = .ok n →
        fetch.asked m isolate configs = matching.map (·.name) := by
  intro matching isolated strict
  refine ⟨?_, fun n hn => ⟨?_, fun zero hlatency hcount => ?_⟩, fun r => ?_, fun r => ?_,
    fun hall => ?_, fun isolate => ⟨?_, fun n hn => ?_⟩⟩
  · simp only [isolated, average_eq_ok_iff, fatal?_true_eq_none_iff, exists_and_left, exists_eq,
      and_true]
    rfl
  · obtain ⟨hborne, rfl⟩ := (average_eq_ok_iff fetch m true).mp hn
    have hselected : (fetch.readable matching).filter m.selects = fetch.readable matching := by
      refine List.filter_eq_self.mpr fun c hc => ?_
      exact (List.mem_filter.mp (List.mem_filter.mp hc).1).2
    refine (average_eq_ok_iff fetch m true).mpr ⟨fun c hc => ?_, ?_⟩
    · rw [hselected] at hc
      exact fatal?_of_mem_readable fetch true hc
    · rw [hselected, totals_readable]
  · obtain ⟨hborne, rfl⟩ := (average_eq_ok_iff fetch m true).mp hn
    refine (average_eq_ok_iff _ m true).mpr ⟨fun c hc => ?_, ?_⟩
    · rw [fatal?_filled]
      exact hborne c hc
    · rw [totals_filled fetch m hlatency hcount]
  · simp only [isolated, average_eq_error_iff, fatal?_true_eq_none_iff, fatal?_eq_some_iff,
      true_and, Bool.not_eq_true, and_assoc]
    rfl
  · simp only [strict, average_eq_error_iff, fatal?_false_eq_none_iff, fatal?_eq_some_iff,
      Bool.false_eq_true, false_and, not_false_eq_true, and_true]
    rfl
  · have hborne (isolate : Bool) : ∀ c ∈ matching, fetch.fatal? isolate c = none := by
      intro c hc
      obtain ⟨stats, hok⟩ := hall c hc
      rw [fatal?, hok]
    simp only [strict, isolated, (average_of_borne fetch m _ (hborne _)).1]
  · rcases average_cases fetch m isolate configs with
      hall | ⟨before, c, after, f, hsplit, hborne, hf⟩
    · have hall := (average_of_borne fetch m isolate hall).2
      exact hall ▸ List.prefix_rfl
    · rw [(average_of_fatal fetch m isolate hsplit hborne hf).2]
      change _ <+: (configs.filter m.selects).map _
      rw [hsplit]
      exact ⟨after.map (·.name), by simp⟩
  · obtain ⟨hborne, -⟩ := (average_eq_ok_iff fetch m isolate).mp hn
    exact (average_of_borne fetch m isolate hborne).2

/-- The average of reads over the maps with a store behind them. -/
def backedReads : LatencyMetric :=
  ⟨⟨"get-latency-average-store-backed", "mpgtlams",
      "Average get latency of maps backed by a map store"⟩,
    MapConfig.isStoreBacked, MapStats.totalGetLatency, MapStats.getOperationCount⟩

/-- One map can be read, one is lost, and for all others the cluster cannot be asked. -/
def faltering : Fetcher := fun name =>
  if name = "orders" then .ok { totalGetLatency := 100, getOperationCount := 10 }
  else if name = "carts" then .error (.statsUnavailable "carts" none none)
  else .error (.clusterUnavailable none none)

/-- Maps to be averaged over, one of them twice, and one without a store. -/
def shelves : List MapConfig :=
  [{ name := "orders", mapStore := { enabled := true } },
    { name := "carts", mapStore := { enabled := true } }, { name := "sessions" },
    { name := "orders", mapStore := { enabled := true } }]

/-- The lost map is left out and the one without a store is not asked for; without isolation the
lost map ends the average. -/
theorem average_isolated_shelves :
    faltering.average backedReads true shelves = .ok 10 ∧
      faltering.average backedReads true (faltering.readable
        (shelves.filter backedReads.selects)) = .ok 10 ∧
      (faltering.filled {}).average backedReads true shelves = .ok 10 ∧
      faltering.asked backedReads true shelves = ["orders", "carts", "orders"] ∧
      faltering.average backedReads false shelves =
        .error ⟨.statsUnavailable "carts" none none, none⟩ := by
  have hok : faltering.average backedReads true shelves = .ok 10 := rfl
  obtain ⟨-, hsame, -, hfails, -, hasked⟩ := average_isolated backedReads faltering shelves
  obtain ⟨hreadable, hfilled⟩ := hsame 10 hok
  refine ⟨hok, hreadable, hfilled {} rfl rfl, (hasked true).2 10 hok, (hfails _).mpr ?_⟩
  refine ⟨[{ name := "orders", mapStore := { enabled := true } }],
    { name := "carts", mapStore := { enabled := true } },
    [{ name := "orders", mapStore := { enabled := true } }], _, rfl, fun b hb => ?_, rfl, rfl⟩
  obtain rfl := List.mem_singleton.mp hb
  exact ⟨_, rfl⟩

end Fetcher

end MapMetrics
