import MapMetrics.Proofs.Collector.Roster
import MapMetrics.Proofs.Loading.Settings
import MapMetrics.Proofs.Number.Difference
import MapMetrics.Proofs.Report.Entries
import MapMetrics.Proofs.Traversal

/-!
# Reports as metrics

A collector of maps makes one metric of each entry of its report: the value is the integer that is
written there, the unit is that of the catalog which the entry comes from, and the time is the one
clock reading after the report. A metric is given the time of its making where its own time is not
filled, and the only such time is zero. It never comes to that: the clock starts above the interval
for a collector that was never stamped, and goes on from the stamp for any other.
-/

namespace MapMetrics

open MapMetrics.Field Outcome

/-! ## Metrics as they are written down -/

/-- A scalar keeps its kind. -/
theorem Scalar.ofValue_written (s : Scalar) : Scalar.ofValue s.toValue = .valid s := by
  cases s <;> rfl

/-- Items are read as they are written when each of them is. -/
theorem items_written {α : Type} {read : Value → Outcome α} {write : α → Value}
    (h : ∀ a, read (write a) = .valid a) (as : List α) (first : Nat) :
    items read first (as.map write) = .valid as := by
  induction as generalizing first with
  | nil => rfl
  | cons a rest ih =>
    rw [List.map_cons, items, h a, ih]
    rfl

theorem MetricLabel.ofValue_written (l : MetricLabel) :
    (Model.ofValue (Model.toValue l) : Outcome MetricLabel) = .valid l := by
  have hrecord : (Model.ofValue (Model.toValue l) : Outcome MetricLabel) =
      (MetricLabel.mk <$> (text (.text l.name)).within (.field "name")
        <*> (text (.text l.value)).within (.field "value")) := rfl
  rw [hrecord, text_text, text_text]
  rfl

theorem MetricValue.ofValue_written (v : MetricValue) :
    (Model.ofValue (Model.toValue v) : Outcome MetricValue) = .valid v := by
  have hrecord : (Model.ofValue (Model.toValue v) : Outcome MetricValue) =
      (MetricValue.mk <$> (Scalar.ofValue v.value.toValue).within (.field "value")) := rfl
  rw [hrecord, Scalar.ofValue_written]
  rfl

/-- A metric that has its time is read as it is written down, whatever the clock says. -/
theorem Metric.ofValue_written (now : Float) (m : Metric) :
    Metric.ofValue now m.toValue = .valid m := by
  have hrecord : Metric.ofValue now m.toValue =
      Metric.mk
        <$> (text (.text m.name)).within (.field "name")
        <*> (Model.ofValue (Model.toValue m.value) : Outcome MetricValue).within (.field "value")
        <*> (choice (.text (Named.name m.type))).within (.field "type")
        <*> (perhaps choice ((m.unit.map fun u => .text (Named.name u)).getD .null)).within
          (.field "unit")
        <*> (items Model.ofValue 0 (m.labels.map Model.toValue)).within (.field "labels")
        <*> (text (.text m.description)).within (.field "description")
        <*> (real (.float m.timestamp)).within (.field "timestamp") := rfl
  have htype : choice (.text (Named.name m.type)) = .valid m.type := by
    cases m.type
    rfl
  have hunit : perhaps choice ((m.unit.map fun u => .text (Named.name u)).getD .null) =
      .valid m.unit := by
    cases m.unit with
    | none => rfl
    | some u => cases u <;> rfl
  rw [hrecord, text_text, text_text, MetricValue.ofValue_written, htype, hunit,
    items_written MetricLabel.ofValue_written]
  rfl

namespace Collector

/-! ## The metric of an entry -/

/-- A metric that stands for an entry of a report of maps. -/
structure Samples (settings : Settings) (name : String) (time : Float)
    (entry : String × String) (m : Metric) : Prop where
  /-- It is named by the prefix, the collector and the key. -/
  named : m.name = settings.metricsPrefix ++ "." ++ name ++ "." ++ entry.1
  /-- Its value is the integer that is written in the report. -/
  value : ∃ n : Int, entry.2 = toString n ∧ m.value = ⟨.int n⟩
  /-- It is a value at a time. -/
  type : m.type = .gauge
  /-- It counts when the entry is that of a trait. -/
  count : m.unit = some .count ↔
    ∃ t ∈ Trait.catalog, entry.1 = t.label.reportKey settings.keyStyle
  /-- It measures a time when the entry is an average. -/
  milliseconds : m.unit = some .milliseconds ↔
    ∃ l ∈ LatencyMetric.catalog, entry.1 = l.label.reportKey settings.keyStyle
  /-- It does one or the other. -/
  measured : m.unit ≠ none
  /-- It has no labels. -/
  labels : m.labels = []
  /-- It is described as in the catalog. -/
  described : ∃ label ∈ Report.labels, entry.1 = label.reportKey settings.keyStyle ∧
    m.description = label.description
  /-- It has its time. -/
  stamped : m.timestamp = time

theorem mapEntry?_trait (style : KeyStyle) : ∀ t ∈ Trait.catalog,
    mapEntry? style (t.label.reportKey style) = some (.count, t.label.description) := by
  cases style <;> decide

theorem mapEntry?_average (style : KeyStyle) : ∀ m ∈ LatencyMetric.catalog,
    mapEntry? style (m.label.reportKey style) = some (.milliseconds, m.label.description) := by
  cases style <;> decide

/-- No trait has the key of an average. -/
theorem reportKey_trait_ne_average (style : KeyStyle) : ∀ t ∈ Trait.catalog,
    ∀ m ∈ LatencyMetric.catalog, t.label.reportKey style ≠ m.label.reportKey style := by
  cases style <;> decide

theorem description_ne_empty : ∀ label ∈ Report.labels, label.description ≠ "" := by
  decide

/-- A metric with a description and a time above zero is made of what is given for it, whatever the
clock says while it is made. -/
theorem createMetric_eq (c : Collector) (again : Float) (key : String) (n : Int) (unit : MetricUnit)
    {description : String} {time : Float} (hdescription : description ≠ "") (htime : 0.0 < time) :
    c.createMetric again key (.int n) .gauge
        { unit := some unit, description := .text description, timestamp := .float time } =
      .ok { name := c.metricName key, value := ⟨.int n⟩, type := .gauge, unit := some unit
            description := description, timestamp := time } := by
  have hfilled : (Value.text description).orElse (.text (defaultDescription key)) =
      .text description := by
    refine if_pos ?_
    simpa [Value.isFilled] using hdescription
  have hstamped : (Value.float time).orElse (.float again) = .float time :=
    if_pos (Rounding.bne_zero_of_float_pos htime)
  have hread := Metric.ofValue_written again ⟨c.metricName key, ⟨.int n⟩, .gauge, some unit, [],
    description, time⟩
  simp only [Metric.toValue, Option.map_some, List.map_nil] at hread
  unfold createMetric
  simp only [hfilled, hstamped]
  -- the value and the labels pass their checks
  change Except.bind (.ok (⟨.int n⟩ : MetricValue)) (fun value =>
    Except.bind (.ok ([] : List MetricLabel)) fun labels => _) = _
  simp only [Except.bind, Option.map_some, List.map_nil, hread]
  rfl

/-- The details that an entry of a report gives for its metric. -/
def detailsOf (m : Metric) : MetricDetails where
  unit := m.unit
  description := .text m.description
  timestamp := .float m.timestamp

variable {settings : Settings} {name : String}

/-- An entry of a report of maps stands for one metric, and the clock is not read for it. -/
theorem exists_metric_of_entry {c : Collector} {last time : Float}
    (hc : c = { ofSettings name settings with last := last }) (htime : 0.0 < time)
    {e : String × String} (he : Report.Entry settings.keyStyle e) :
    ∃ m, c.metricOf time e = .ok m ∧ Samples settings name time e m ∧
      ∀ again, c.createMetric again e.1 m.value.value.toValue m.type (detailsOf m) = .ok m := by
  have hdescribe {key description : String} {unit : MetricUnit}
      (h : mapEntry? settings.keyStyle key = some (unit, description)) :
      c.describe key = (.gauge, some unit, description) := by
    subst hc
    simp only [describe, ofSettings, h]
  have hmetric {key description : String} {unit : MetricUnit} {n : Int}
      (h : mapEntry? settings.keyStyle key = some (unit, description))
      (hdescription : description ≠ "") (hn : Number.isWritable n = true) :
      c.metricOf time (key, toString n) =
        .ok { name := c.metricName key, value := ⟨.int n⟩, type := .gauge, unit := some unit
              description := description, timestamp := time } := by
    simp only [metricOf, hdescribe h, reportedValue, Number.integerIn_toString hn]
    exact createMetric_eq c time key n unit hdescription htime
  cases he with
  | @count t listed n writable =>
    have hlabel : t.label ∈ Report.labels :=
      List.mem_append_left _ (List.mem_map_of_mem listed)
    have hdescription := description_ne_empty _ hlabel
    refine ⟨_, hmetric (mapEntry?_trait _ t listed) hdescription writable, ?_,
      fun again => createMetric_eq c again _ n _ hdescription htime⟩
    exact {
      named := by rw [hc]; rfl
      value := ⟨n, rfl, rfl⟩
      type := rfl
      count := iff_of_true rfl ⟨t, listed, rfl⟩
      milliseconds := iff_of_false (by simp) fun ⟨m, hm, hkey⟩ =>
        reportKey_trait_ne_average _ t listed m hm hkey
      measured := by simp
      labels := rfl
      described := ⟨t.label, hlabel, rfl, rfl⟩
      stamped := rfl }
  | @average m listed n writable =>
    have hlabel : m.label ∈ Report.labels :=
      List.mem_append_right _ (List.mem_map_of_mem listed)
    have hdescription := description_ne_empty _ hlabel
    refine ⟨_, hmetric (mapEntry?_average _ m listed) hdescription writable, ?_,
      fun again => createMetric_eq c again _ n _ hdescription htime⟩
    exact {
      named := by rw [hc]; rfl
      value := ⟨n, rfl, rfl⟩
      type := rfl
      count := iff_of_false (by simp) fun ⟨t, ht, hkey⟩ =>
        reportKey_trait_ne_average _ t ht m listed hkey.symm
      milliseconds := iff_of_true rfl ⟨m, listed, rfl⟩
      measured := by simp
      labels := rfl
      described := ⟨m.label, hlabel, rfl, rfl⟩
      stamped := rfl }

/-! ## Requests over time -/

variable {σ : Type}

/-- A request for metrics, of a cluster in some state, and the clock at the time. -/
structure Request (σ : Type) where
  /-- The state of the cluster. -/
  state : σ
  /-- When the collector is asked whether it is due. -/
  due : Float
  /-- After the report is there. -/
  after : Float

/-- The collector after a request, as it was if the request fails. -/
def next (view : View σ) (c : Collector) (q : Request σ) : Collector :=
  match ((c.collect q.due q.after).run view q.state).1.result with
  | .ok (_, collected) => collected
  | .error _ => c

/-- The collector after some requests. -/
def afterAll (view : View σ) (c : Collector) (requests : List (Request σ)) : Collector :=
  requests.foldl (next view) c

/-- The clock readings of a request, in order. -/
def ticks (view : View σ) (c : Collector) (q : Request σ) : List Float :=
  if c.enabled then
    q.due :: if c.isDue q.due && (c.report.run view q.state).1.result.toOption.isSome then
      [q.after] else []
  else []

/-- The clock readings of some requests, in order. -/
def clock (view : View σ) : Collector → List (Request σ) → List Float
  | _, [] => []
  | c, q :: rest => c.ticks view q ++ clock view (c.next view q) rest

variable {view : View σ} {c : Collector} {q : Request σ}

/-- A collector that is due is switched on. -/
theorem enabled_of_isDue {now : Float} (h : c.isDue now = true) : c.enabled = true :=
  (Bool.and_eq_true _ _ ▸ h).1

/-- For a report that is there the clock is read twice. -/
theorem ticks_of_report {report : Report} (hdue : c.isDue q.due = true)
    (hreport : (c.report.run view q.state).1.result = .ok report) :
    c.ticks view q = [q.due, q.after] := by
  rw [ticks, if_pos (enabled_of_isDue hdue), hdue, hreport]
  rfl

/-- A request leaves the collector as it is, or stamps it with the second of two readings. -/
theorem next_cases (view : View σ) (c : Collector) (q : Request σ) : c.next view q = c ∨
    c.next view q = { c with last := q.after } ∧ c.isDue q.due = true ∧
      c.ticks view q = [q.due, q.after] := by
  rw [next]
  cases hresult : ((c.collect q.due q.after).run view q.state).1.result with
  | error r => exact .inl rfl
  | ok outcome =>
    obtain ⟨metrics, collected⟩ := outcome
    have hcollected := eq_of_result_collect hresult
    by_cases hdue : c.isDue q.due = true
    · rw [if_pos hdue] at hcollected
      rw [result_collect, if_pos hdue] at hresult
      cases hreport : (c.report.run view q.state).1.result with
      | error r =>
        rw [hreport] at hresult
        cases hresult
      | ok report => exact .inr ⟨hcollected, hdue, ticks_of_report hdue hreport⟩
    · rw [if_neg hdue] at hcollected
      exact .inl hcollected

/-- A collector of maps as it is between requests: stamped not at all, or above zero and not after
the readings to come. -/
structure Paced (settings : Settings) (name : String) (c : Collector) (later : List Float) :
    Prop where
  /-- Only the stamp has changed. -/
  same : c = { ofSettings name settings with last := c.last }
  /-- The stamp lies between zero and what is to come. -/
  stamp : c.last = 0.0 ∨ 0.0 < c.last ∧ ∀ t ∈ later, c.last ≤ t

/-- A paced collector is not found due before the clock is above zero. -/
theorem Paced.due_pos {later : List Float} (hvalid : settings.Valid)
    (h : Paced settings name c later) {due : Float} (hmem : due ∈ later)
    (hdue : c.isDue due = true) : 0.0 < due := by
  rcases h.stamp with hnew | ⟨hpos, hlater⟩
  · have hinterval : c.interval = settings.collectionInterval := by rw [h.same]; rfl
    rw [isDue, Bool.and_eq_true, decide_eq_true_iff, hinterval, hnew] at hdue
    exact Rounding.float_pos_of_le_sub_zero hvalid.interval hdue.2
  · exact Rounding.float_lt_of_lt_of_le hpos (hlater due hmem)

/-- One request keeps a collector paced. -/
theorem Paced.next {later : List Float} (hvalid : settings.Valid)
    (h : Paced settings name c (c.ticks view q ++ later))
    (hclock : (c.ticks view q ++ later).Pairwise (· ≤ ·)) :
    Paced settings name (c.next view q) later := by
  rcases next_cases view c q with hsame | ⟨hstamped, hdue, hticks⟩
  · rw [hsame]
    exact ⟨h.same, h.stamp.imp_right fun hpos =>
      ⟨hpos.1, fun t ht => hpos.2 t (List.mem_append_right _ ht)⟩⟩
  · rw [hticks] at h hclock
    obtain ⟨hwithin, -, hbetween⟩ := List.pairwise_append.mp hclock
    have hpos := h.due_pos hvalid (List.mem_append_left _ List.mem_cons_self) hdue
    have hordered : q.due ≤ q.after :=
      List.rel_of_pairwise_cons hwithin (List.mem_singleton_self _)
    rw [hstamped]
    refine ⟨by rw [h.same], .inr ⟨Rounding.float_lt_of_lt_of_le hpos hordered, ?_⟩⟩
    exact fun t ht => hbetween q.after (List.mem_cons_of_mem _ List.mem_cons_self) t ht

/-- Requests keep a collector paced. -/
theorem paced_afterAll (hvalid : settings.Valid) (requests more : List (Request σ))
    (h : Paced settings name c (clock view c (requests ++ more)))
    (hclock : (clock view c (requests ++ more)).Pairwise (· ≤ ·)) :
    let reached := c.afterAll view requests
    Paced settings name reached (clock view reached more) ∧
      (clock view reached more).Pairwise (· ≤ ·) := by
  induction requests generalizing c with
  | nil => exact ⟨h, hclock⟩
  | cons q rest ih =>
    rw [List.cons_append, clock] at h hclock
    exact ih (h.next hvalid hclock) (List.pairwise_append.mp hclock).2.1

/-- A new collector is paced. -/
theorem paced_ofSettings (settings : Settings) (name : String) (later : List Float) :
    Paced settings name (ofSettings name settings) later :=
  ⟨rfl, .inl rfl⟩

/-! ## Collections of metrics -/

/-- The metrics of a report have different names. -/
theorem nodup_names_of_samples {time : Float} {report : Report} {metrics : List Metric}
    (h : List.Forall₂ (Samples settings name time) report metrics)
    (hkeys : (report.map (·.1)).Nodup) : (metrics.map (·.name)).Nodup := by
  have hnames : metrics.map (·.name) =
      (report.map (·.1)).map fun key => settings.metricsPrefix ++ "." ++ name ++ "." ++ key := by
    induction h with
    | nil => rfl
    | cons hm _ ih =>
      rw [List.map_cons] at hkeys
      rw [List.map_cons, List.map_cons, List.map_cons, hm.named, ih hkeys.of_cons]
  rw [hnames]
  exact hkeys.map fun key other h => String.append_right_inj _ |>.mp h

/-- A collection against any view starts with the objects. -/
theorem head?_transcript_collect (view : View σ) (settings : Settings) (s : σ) :
    ((Report.collect settings).transcript view s).head? = some (.objects (view.objects s).1) :=
  rfl

/-- A collector that is not due does nothing. -/
theorem run_collect_of_early (view : View σ) (h : c.isDue q.due = false) :
    (c.collect q.due q.after).run view q.state = (pure ([], c), q.state) ∧ c.next view q = c := by
  have hrun : (c.collect q.due q.after).run view q.state = (pure ([], c), q.state) := by
    rw [collect, h]
    rfl
  refine ⟨hrun, ?_⟩
  rw [next, hrun]
  rfl

/-- Without a report a request fails as the report does. -/
theorem result_collect_of_error {r : Raised} (hdue : c.isDue q.due = true)
    (hreport : (c.report.run view q.state).1.result = .error r) :
    ((c.collect q.due q.after).run view q.state).1.result = .error r ∧ c.next view q = c := by
  have hresult : ((c.collect q.due q.after).run view q.state).1.result = .error r := by
    rw [result_collect, if_pos hdue, hreport]
    rfl
  refine ⟨hresult, ?_⟩
  rw [next, hresult]

/-- With metrics for all entries of its report a collector is stamped. -/
theorem result_collect_of_metrics {report : Report} {metrics : List Metric}
    (hdue : c.isDue q.due = true) (hreport : (c.report.run view q.state).1.result = .ok report)
    (hmetrics : report.mapM (c.metricOf q.after) = .ok metrics) :
    ((c.collect q.due q.after).run view q.state).1.result = .ok (metrics, c.next view q) ∧
      c.next view q = { c with last := q.after } := by
  have hresult : ((c.collect q.due q.after).run view q.state).1.result =
      .ok (metrics, { c with last := q.after }) := by
    rw [result_collect, if_pos hdue, hreport]
    simp only [Except.bind, hmetrics]
  have hnext : c.next view q = { c with last := q.after } := by rw [next, hresult]
  exact ⟨by rw [hresult, hnext], hnext⟩

/-- A paced collector that is due has a metric for each entry of its report. -/
theorem Paced.exists_metrics (hvalid : settings.Valid)
    (h : Paced settings name c (c.ticks view q)) (hclock : (c.ticks view q).Pairwise (· ≤ ·))
    (hobjects : ∀ infos, (view.objects q.state).1 = .ok infos →
      Number.isWritable infos.length = true) (hdue : c.isDue q.due = true) {report : Report}
    (hreport : (c.report.run view q.state).1.result = .ok report) :
    (report.map (·.1)).Nodup ∧ ∃ metrics, report.mapM (c.metricOf q.after) = .ok metrics ∧
      List.Forall₂ (fun e m => Samples settings name q.after e m ∧ ∀ again,
        c.createMetric again e.1 m.value.value.toValue m.type (detailsOf m) = .ok m)
        report metrics := by
  rw [ticks_of_report hdue hreport] at h hclock
  have hordered : q.due ≤ q.after := List.rel_of_pairwise_cons hclock (List.mem_singleton_self _)
  have hafter : 0.0 < q.after :=
    Rounding.float_lt_of_lt_of_le (h.due_pos hvalid List.mem_cons_self hdue) hordered
  have hcycle : c.report = Report.collect settings := by
    rw [h.same]
    rfl
  have hfollows := Query.follows_transcript view (Report.collect settings) q.state
  rw [← hcycle, hreport, hcycle] at hfollows
  obtain ⟨hkeys, hentries⟩ := Report.entry_of_follows hfollows fun infos hinfos => by
    rw [head?_transcript_collect, Option.some.injEq, Exchange.objects.injEq] at hinfos
    exact hobjects infos hinfos
  exact ⟨hkeys ▸ Report.nodup_keys _,
    exists_mapM_eq_ok fun e he => exists_metric_of_entry h.same hafter (hentries e he)⟩

/-- After any requests on a clock that never goes back, a collector of maps with valid settings
answers the next one in this way. If it is switched off or its interval has not passed, there are no
metrics, and nothing is read, reported or changed. If the cycle fails, so does the request, and the
collector stays as it is. Otherwise every entry of the report has its metric, in the order of the
report, under a name of its own; all of them have the time of the one reading after the report,
which is then that of the collector, and no other reading would make them different. The number of
objects must be one that can be written, as that of any list is. -/
theorem collect_samples (hvalid : settings.Valid) (name : String) (view : View σ)
    (requests : List (Request σ)) (q : Request σ)
    (hclock : (clock view (ofSettings name settings) (requests ++ [q])).Pairwise (· ≤ ·))
    (hobjects : ∀ infos, (view.objects q.state).1 = .ok infos →
      Number.isWritable infos.length = true) :
    let c := (ofSettings name settings).afterAll view requests
    let outcome := ((c.collect q.due q.after).run view q.state).1.result
    let cycle := ((Report.collect settings).run view q.state).1.result
    (c.isDue q.due = true ↔
      settings.enabled = true ∧ settings.collectionInterval ≤ q.due - c.last) ∧
    (c.isDue q.due = false →
      (c.collect q.due q.after).run view q.state = (pure ([], c), q.state) ∧
        c.next view q = c) ∧
    (c.isDue q.due = true →
      (∀ r, cycle = .error r → outcome = .error r ∧ c.next view q = c) ∧
      ∀ report, cycle = .ok report → ∃ metrics, outcome = .ok (metrics, c.next view q) ∧
        c.next view q = { c with last := q.after } ∧
        List.Forall₂ (Samples settings name (c.next view q).last) report metrics ∧
        (metrics.map (·.name)).Nodup ∧
        List.Forall₂ (fun e m => ∀ again,
          c.createMetric again e.1 m.value.value.toValue m.type (detailsOf m) = .ok m)
          report metrics) := by
  intro c outcome cycle
  obtain ⟨hpaced, hticks⟩ := paced_afterAll hvalid requests [q]
    (paced_ofSettings settings name _) hclock
  change Paced settings name c (clock view c [q]) at hpaced
  change (clock view c [q]).Pairwise (· ≤ ·) at hticks
  rw [clock, clock, List.append_nil] at hpaced hticks
  have hcycle : c.report = Report.collect settings := by
    rw [hpaced.same]
    rfl
  refine ⟨?_, run_collect_of_early view, fun hdue => ⟨fun r hr => ?_, fun report hr => ?_⟩⟩
  · rw [isDue, Bool.and_eq_true, decide_eq_true_iff, hpaced.same]
    rfl
  · exact result_collect_of_error hdue (hcycle ▸ hr)
  · have hreport : (c.report.run view q.state).1.result = .ok report := hcycle ▸ hr
    obtain ⟨hkeys, metrics, hmetrics, hsamples⟩ :=
      hpaced.exists_metrics hvalid hticks hobjects hdue hreport
    obtain ⟨hresult, hnext⟩ := result_collect_of_metrics hdue hreport hmetrics
    have hstamp : (c.next view q).last = q.after := by rw [hnext]
    refine ⟨metrics, hresult, hnext, ?_, ?_, hsamples.imp fun _ _ h => h.2⟩
    · rw [hstamp]
      exact hsamples.imp fun _ _ h => h.1
    · exact nodup_names_of_samples (hsamples.imp fun _ _ h => h.1) hkeys

/-- A cluster with one map. -/
def depot : Cluster :=
  Cluster.addMap { name := "orders", mapStore := { enabled := true } }
    { totalGetLatency := 100, getOperationCount := 10 } {}

/-- Two requests, of which the second comes too early. -/
def visits : List (Request Cluster) :=
  [⟨depot, 100.0, 101.0⟩, ⟨depot, 120.0, 120.0⟩]

/-- The collector after these requests. -/
def visited : Collector :=
  (ofSettings "map_info" { keyStyle := .compact }).afterAll Cluster.view visits

/-- The next request in time gives all metrics with the time of its report. -/
theorem collect_samples_depot :
    (clock Cluster.view (ofSettings "map_info" { keyStyle := .compact })
      (visits ++ [⟨depot, 200.0, 201.0⟩])).Pairwise (· ≤ ·) ∧
    visited.isDue 200.0 = true ∧
    ∃ report metrics,
      ((Report.collect { keyStyle := .compact }).run Cluster.view depot).1.result = .ok report ∧
      ((visited.collect 200.0 201.0).run Cluster.view depot).1.result =
        .ok (metrics, { visited with last := 201.0 }) ∧
      List.Forall₂ (Samples { keyStyle := .compact } "map_info" 201.0) report metrics ∧
      (metrics.map (·.name)).Nodup := by
  have hvalid : ({ keyStyle := .compact } : Settings).Valid :=
    ⟨by decide +kernel, by decide, by decide, by decide⟩
  have hclock : (clock Cluster.view (ofSettings "map_info" { keyStyle := .compact })
      (visits ++ [⟨depot, 200.0, 201.0⟩])).Pairwise (· ≤ ·) := by
    decide +kernel
  have hobjects : ∀ infos, (Cluster.view.objects depot).1 = .ok infos →
      Number.isWritable infos.length = true := by
    intro infos hinfos
    obtain rfl : [⟨"orders", defaultMapService⟩] = infos := Except.ok.inj hinfos
    decide +kernel
  have hdue : visited.isDue 200.0 = true := by decide +kernel
  have hsome : ((Report.collect { keyStyle := .compact }).run Cluster.view
      depot).1.result.toOption.isSome = true := by decide +kernel
  obtain ⟨report, hreport⟩ := Option.isSome_iff_exists.mp hsome
  have hcycle := eq_ok_of_toOption hreport
  obtain ⟨-, -, hcollected⟩ := collect_samples hvalid "map_info" Cluster.view visits
    ⟨depot, 200.0, 201.0⟩ hclock hobjects
  have hvisited : (ofSettings "map_info" { keyStyle := .compact }).afterAll Cluster.view visits =
      visited := rfl
  dsimp only at hcollected
  rw [hvisited] at hcollected
  obtain ⟨metrics, hmetrics, hnext, hsamples, hnames, -⟩ := (hcollected hdue).2 report hcycle
  rw [hnext] at hmetrics hsamples
  exact ⟨hclock, hdue, report, metrics, hcycle, hmetrics, hsamples, hnames⟩

end Collector

end MapMetrics
