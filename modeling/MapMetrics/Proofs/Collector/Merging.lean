import MapMetrics.Collector.Registry
import MapMetrics.Proofs.Query.Evaluation
import Mathlib.Data.List.Nodup
import Mathlib.Data.List.ReduceOption

/-!
# Merging the reports of collectors

A run asks one collector after another, and each has a report to offer or has none, because it is
not due or fails. What is offered is merged up to the first report with a key that is there already.
The collectors of merged reports are stamped, and all others stay as they are; a run that ends with
a clash takes no stamp back.
-/

namespace MapMetrics

variable {σ : Type}

/-- Two reports have no common key. -/
def Report.Apart (a b : Report) : Prop :=
  List.Disjoint (a.map (·.1)) (b.map (·.1))

theorem Report.append_apart_iff {a b c : Report} :
    Report.Apart (a ++ b) c ↔ a.Apart c ∧ b.Apart c := by
  rw [Apart, List.map_append, List.disjoint_append_left]
  rfl

/-- The report that a collector offers when it is asked at a time, if it is due and does not fail,
and the state after it. -/
def Collector.offer (view : View σ) (now : Float) (c : Collector) (s : σ) : Option Report × σ :=
  if c.isDue now then ((c.report.evaluate view s).1.toOption, (c.report.evaluate view s).2)
  else (none, s)

namespace Registry

/-- What collectors offer one after another, the first of which stands at a position. -/
def offers (view : View σ) (readings : Readings) (position : Nat) :
    List Collector → σ → List (Option Report)
  | [], _ => []
  | c :: rest, s =>
    (c.offer view (readings.due position) s).1 ::
      offers view readings (position + 1) rest (c.offer view (readings.due position) s).2

/-- All reports of offers, put together. -/
def gathered (offered : List (Option Report)) : Report :=
  offered.reduceOption.flatten

/-- Where the first report stands that has a key of those before it. -/
def clash? (merged : Report) : List (Option Report) → Option Nat
  | [] => none
  | none :: rest => (clash? merged rest).map (· + 1)
  | some report :: rest =>
    if (duplicates merged report).isEmpty then (clash? (merged ++ report) rest).map (· + 1)
    else some 0

/-- Collectors, the first of which stands at a position, with stamps on those of merged reports. -/
def stamped (readings : Readings) (position : Nat) :
    List Collector → List (Option Report) → List Collector
  | c :: rest, offered :: others =>
    (if offered.isSome then { c with last := readings.merged position } else c) ::
      stamped readings (position + 1) rest others
  | rest, _ => rest

/-! ## Clashes -/

/-- There is nothing to complain about exactly when the reports have no common key. -/
theorem isEmpty_duplicates_iff {merged report : Report} :
    (duplicates merged report).isEmpty = true ↔ merged.Apart report := by
  rw [duplicates, List.isEmpty_iff_length_eq_zero, (List.mergeSort_perm _ _).length_eq,
    List.length_eq_zero_iff, List.filter_eq_nil_iff, Report.Apart]
  constructor
  · intro h k hm hr
    exact h k hr (List.contains_iff_mem.mpr hm)
  · intro h k hr hm
    exact h (List.contains_iff_mem.mp hm) hr

@[simp] theorem gathered_nil : gathered [] = [] := rfl

@[simp] theorem gathered_none (offered : List (Option Report)) :
    gathered (none :: offered) = gathered offered := rfl

@[simp] theorem gathered_some (report : Report) (offered : List (Option Report)) :
    gathered (some report :: offered) = report ++ gathered offered := rfl

/-- A clash is between a report and those offered before it. -/
theorem report_of_clash? {merged : Report} {offered : List (Option Report)} {n : Nat}
    (h : clash? merged offered = some n) :
    ∃ report, offered[n]? = some (some report) ∧
      ¬ (merged ++ gathered (offered.take n)).Apart report := by
  induction offered generalizing merged n with
  | nil => cases h
  | cons offer rest ih =>
    cases offer with
    | none =>
      obtain ⟨m, hm, rfl⟩ := Option.map_eq_some_iff.mp h
      exact ih hm
    | some report =>
      rw [clash?] at h
      by_cases hd : (duplicates merged report).isEmpty = true
      · rw [if_pos hd] at h
        obtain ⟨m, hm, rfl⟩ := Option.map_eq_some_iff.mp h
        obtain ⟨second, hs, ha⟩ := ih hm
        refine ⟨second, hs, ?_⟩
        rwa [List.take_succ_cons, gathered_some, ← List.append_assoc]
      · rw [if_neg hd] at h
        obtain rfl := Option.some.inj h
        refine ⟨report, rfl, ?_⟩
        rwa [List.take_zero, gathered_nil, List.append_nil, ← isEmpty_duplicates_iff]

/-- What is put together has no key of a report when no part of it has one. -/
theorem apart_gathered_iff {offered : List (Option Report)} {report : Report} :
    (gathered offered).Apart report ↔ ∀ lost ∈ offered.reduceOption, lost.Apart report := by
  induction offered with
  | nil => simp [Report.Apart]
  | cons offer rest ih =>
    cases offer with
    | none => exact ih
    | some first =>
      rw [gathered_some, List.reduceOption_cons_of_some, List.forall_mem_cons, ← ih,
        Report.append_apart_iff]

/-- A report that clashes has a key of a report that was offered before it. -/
theorem lost_of_clash? {offered : List (Option Report)} {n : Nat} {report : Report}
    (h : clash? [] offered = some n) (hr : offered[n]? = some (some report)) :
    ∃ i < n, ∃ lost, offered[i]? = some (some lost) ∧ ¬ lost.Apart report := by
  obtain ⟨found, hf, hclash⟩ := report_of_clash? h
  rw [hr, Option.some.injEq, Option.some.injEq] at hf
  rw [← hf, List.nil_append, apart_gathered_iff] at hclash
  push Not at hclash
  obtain ⟨lost, hlost, hcommon⟩ := hclash
  obtain ⟨i, hi⟩ := List.mem_iff_getElem?.mp (List.reduceOption_mem_iff.mp hlost)
  rw [List.getElem?_take, Option.ite_none_right_eq_some] at hi
  exact ⟨i, hi.1, lost, hi.2, hcommon⟩

/-- There is no clash exactly when all reports are apart from one another and from what is merged
already. -/
theorem clash?_eq_none_iff {merged : Report} {offered : List (Option Report)} :
    clash? merged offered = none ↔
      offered.reduceOption.Pairwise Report.Apart ∧
        ∀ report ∈ offered.reduceOption, merged.Apart report := by
  induction offered generalizing merged with
  | nil => simp [clash?]
  | cons offer rest ih =>
    cases offer with
    | none =>
      rw [clash?, Option.map_eq_none_iff, List.reduceOption_cons_of_none]
      exact ih
    | some report =>
      rw [clash?, List.reduceOption_cons_of_some, List.pairwise_cons, List.forall_mem_cons,
        ← isEmpty_duplicates_iff]
      by_cases hd : (duplicates merged report).isEmpty = true
      · rw [if_pos hd, Option.map_eq_none_iff, ih]
        constructor
        · rintro ⟨hpairs, hall⟩
          exact ⟨⟨fun other ho => (Report.append_apart_iff.mp (hall other ho)).2, hpairs⟩, hd,
            fun other ho => (Report.append_apart_iff.mp (hall other ho)).1⟩
        · rintro ⟨⟨hfirst, hpairs⟩, -, hall⟩
          exact ⟨hpairs, fun other ho =>
            Report.append_apart_iff.mpr ⟨hall other ho, hfirst other ho⟩⟩
      · rw [if_neg hd]
        exact iff_of_false (by simp) fun h => hd h.2.1

/-- Those who offer nothing do not clash. -/
theorem clash?_replicate (merged : Report) (n : Nat) (offered : List (Option Report)) :
    clash? merged (List.replicate n none ++ offered) = (clash? merged offered).map (· + n) := by
  induction n with
  | zero => simp
  | succ n ih =>
    rw [List.replicate_succ, List.cons_append, clash?, ih, Option.map_map]
    rfl

theorem gathered_replicate (n : Nat) (offered : List (Option Report)) :
    gathered (List.replicate n none ++ offered) = gathered offered := by
  rw [gathered, List.reduceOption_append, List.reduceOption_replicate_none, List.nil_append,
    gathered]

/-! ## Stamps -/

/-- A stamp stands on a collector exactly when its report was merged. -/
theorem getElem?_stamped (readings : Readings) (position : Nat) (cs : List Collector)
    (offered : List (Option Report)) (i : Nat) :
    (stamped readings position cs offered)[i]? = cs[i]?.map fun c =>
      if (offered[i]?.join).isSome then { c with last := readings.merged (position + i) }
      else c := by
  induction cs generalizing position offered i with
  | nil => cases offered <;> rfl
  | cons c rest ih =>
    cases offered with
    | nil => simp [stamped]
    | cons offer others =>
      cases i with
      | zero => rfl
      | succ i =>
        rw [stamped, List.getElem?_cons_succ, ih, List.getElem?_cons_succ,
          List.getElem?_cons_succ, Nat.add_right_comm, Nat.add_assoc]

/-! ## Runs -/

section Runs

variable (view : View σ) (readings : Readings) (position : Nat) (merged : Report)
variable (c : Collector) (rest : List Collector) (s : σ)

/-- A collector that offers a report is due, and has made the report. -/
private theorem evaluate_report_of_offer {now : Float} {report : Report}
    (h : (c.offer view now s).1 = some report) :
    c.isDue now = true ∧ c.report.evaluate view s = (.ok report, (c.offer view now s).2) := by
  by_cases hdue : c.isDue now = true
  · rw [Collector.offer, if_pos hdue] at h ⊢
    exact ⟨hdue, by rw [← eq_ok_of_toOption h]⟩
  · rw [Collector.offer, if_neg hdue] at h
    cases h

/-- A collector that offers nothing is passed by. -/
private theorem collectFrom_none (h : (c.offer view (readings.due position) s).1 = none) :
    ((collectFrom readings position merged (c :: rest)).evaluate view s).1 =
      (((collectFrom readings (position + 1) merged rest).evaluate view
        (c.offer view (readings.due position) s).2).1).map fun o =>
          ⟨o.result, c :: o.collectors⟩ := by
  by_cases hdue : c.isDue (readings.due position) = true
  · rw [Collector.offer, if_pos hdue] at h ⊢
    rw [collectFrom, if_pos hdue, Query.evaluate_bind, Query.evaluate_attempt]
    cases hr : (c.report.evaluate view s).1 with
    | ok report =>
      rw [hr] at h
      cases h
    | error r =>
      change Prod.fst (Query.evaluate view (_ >>= fun o => pure _) _) = _
      rw [Query.evaluate_bind_pure]
      rfl
  · rw [Collector.offer, if_neg hdue]
    rw [collectFrom, if_neg hdue, Query.evaluate_bind_pure]
    rfl

/-- A report without a key that is there already is merged. -/
private theorem collectFrom_apart {report : Report}
    (h : (c.offer view (readings.due position) s).1 = some report)
    (ha : (duplicates merged report).isEmpty = true) :
    ((collectFrom readings position merged (c :: rest)).evaluate view s).1 =
      (((collectFrom readings (position + 1) (merged ++ report) rest).evaluate view
        (c.offer view (readings.due position) s).2).1).map fun o =>
          ⟨o.result, { c with last := readings.merged position } :: o.collectors⟩ := by
  obtain ⟨hdue, hreport⟩ := evaluate_report_of_offer view c s h
  rw [collectFrom, if_pos hdue, Query.evaluate_bind, Query.evaluate_attempt, hreport]
  simp only [ha, if_true]
  change Prod.fst (Query.evaluate view (_ >>= fun o => pure _) _) = _
  rw [Query.evaluate_bind_pure]
  rfl

/-- A report with a key that is there already ends the run. -/
private theorem collectFrom_clash {report : Report}
    (h : (c.offer view (readings.due position) s).1 = some report)
    (ha : ¬ (duplicates merged report).isEmpty = true) :
    ((collectFrom readings position merged (c :: rest)).evaluate view s).1 =
      .ok ⟨.error ⟨duplicateFailure c.name (duplicates merged report), none⟩, c :: rest⟩ := by
  obtain ⟨hdue, hreport⟩ := evaluate_report_of_offer view c s h
  rw [collectFrom, if_pos hdue, Query.evaluate_bind, Query.evaluate_attempt, hreport]
  simp only [if_neg ha]
  rfl

end Runs

/-- Without a clash a run merges all that is offered. -/
theorem collectFrom_of_apart (view : View σ) (readings : Readings) {position : Nat}
    {merged : Report} {cs : List Collector} {s : σ}
    (h : clash? merged (offers view readings position cs s) = none) :
    ((collectFrom readings position merged cs).evaluate view s).1 =
      .ok ⟨.ok (merged ++ gathered (offers view readings position cs s)),
        stamped readings position cs (offers view readings position cs s)⟩ := by
  induction cs generalizing position merged s with
  | nil => rw [offers, gathered_nil, List.append_nil]; rfl
  | cons c rest ih =>
    rw [offers] at h ⊢
    cases ho : (c.offer view (readings.due position) s).1 with
    | none =>
      rw [ho, clash?, Option.map_eq_none_iff] at h
      rw [collectFrom_none view readings position merged c rest s ho, ih h]
      rfl
    | some report =>
      rw [ho, clash?] at h
      by_cases hd : (duplicates merged report).isEmpty = true
      · rw [if_pos hd, Option.map_eq_none_iff] at h
        rw [collectFrom_apart view readings position merged c rest s ho hd, ih h, gathered_some,
          ← List.append_assoc]
        rfl
      · rw [if_neg hd] at h
        cases h

/-- A clash ends the run, and what has been merged before it is stamped. -/
theorem collectFrom_of_clash (view : View σ) (readings : Readings) {position : Nat}
    {merged : Report} {cs : List Collector} {s : σ} {n : Nat}
    (h : clash? merged (offers view readings position cs s) = some n) :
    ∃ c report, cs[n]? = some c ∧
      (offers view readings position cs s)[n]? = some (some report) ∧
      ((collectFrom readings position merged cs).evaluate view s).1 =
        .ok ⟨.error ⟨duplicateFailure c.name (duplicates
            (merged ++ gathered ((offers view readings position cs s).take n)) report), none⟩,
          stamped readings position cs ((offers view readings position cs s).take n)⟩ := by
  induction cs generalizing position merged s n with
  | nil => cases h
  | cons c rest ih =>
    rw [offers] at h ⊢
    cases ho : (c.offer view (readings.due position) s).1 with
    | none =>
      rw [ho, clash?] at h
      obtain ⟨m, hm, rfl⟩ := Option.map_eq_some_iff.mp h
      obtain ⟨second, report, hc, hr, hrun⟩ := ih hm
      refine ⟨second, report, hc, hr, ?_⟩
      rw [collectFrom_none view readings position merged c rest s ho, hrun]
      rfl
    | some first =>
      rw [ho, clash?] at h
      by_cases hd : (duplicates merged first).isEmpty = true
      · rw [if_pos hd] at h
        obtain ⟨m, hm, rfl⟩ := Option.map_eq_some_iff.mp h
        obtain ⟨second, report, hc, hr, hrun⟩ := ih hm
        refine ⟨second, report, hc, hr, ?_⟩
        rw [collectFrom_apart view readings position merged c rest s ho hd, hrun,
          List.take_succ_cons, gathered_some, ← List.append_assoc]
        rfl
      · rw [if_neg hd] at h
        obtain rfl := Option.some.inj h
        refine ⟨c, first, rfl, rfl, ?_⟩
        rw [collectFrom_clash view readings position merged c rest s ho hd, List.take_zero,
          gathered_nil, List.append_nil]
        rfl

end Registry

end MapMetrics
