import MapMetrics.Proofs.Collector.Repetition
import MapMetrics.Proofs.Table
import Mathlib.Data.String.Basic

/-!
# What a run over the collectors returns

A run either puts together everything that is offered or names the first collector whose report has
a key that is there already, together with all keys of that kind. A collector that fails is as one
that is not asked. While the clock and the cluster stand still, what a collector offers does not
depend on the others, so that the order of registration decides neither whether a run ends with a
clash nor which entries it returns.
-/

namespace MapMetrics

theorem Report.Apart.symm {a b : Report} (h : a.Apart b) : b.Apart a :=
  List.disjoint_symm h

namespace Registry

variable {σ : Type}

/-! ## Offers one by one -/

/-- The state after collectors have been asked one after another, the first of which stands at a
position. -/
def asked (view : View σ) (readings : Readings) (position : Nat) : List Collector → σ → σ
  | [], s => s
  | c :: rest, s =>
    asked view readings (position + 1) rest (c.offer view (readings.due position) s).2

/-- A collector is asked when those before it have been. -/
theorem getElem?_offers (view : View σ) (readings : Readings) (position : Nat)
    (cs : List Collector) (s : σ) (i : Nat) :
    (offers view readings position cs s)[i]? = cs[i]?.map fun c =>
      (c.offer view (readings.due (position + i))
        (asked view readings position (cs.take i) s)).1 := by
  induction cs generalizing position s i with
  | nil => rfl
  | cons c rest ih =>
    cases i with
    | zero => rfl
    | succ i =>
      rw [offers, List.getElem?_cons_succ, List.getElem?_cons_succ, ih, Nat.add_right_comm,
        Nat.add_assoc]
      rfl

/-- A report is offered exactly when the collector is due and makes the report. -/
theorem offer_eq_some_iff {view : View σ} {now : Float} {c : Collector} {s : σ} {report : Report} :
    (c.offer view now s).1 = some report ↔
      c.isDue now = true ∧ (c.report.run view s).1.result = .ok report := by
  rw [Collector.offer]
  by_cases hdue : c.isDue now = true
  · rw [if_pos hdue]
    refine ⟨fun h => ⟨hdue, eq_ok_of_toOption h⟩, fun h => ?_⟩
    change (c.report.run view s).1.result.toOption = some report
    rw [h.2]
    rfl
  · rw [if_neg hdue]
    exact iff_of_false (by simp) fun h => hdue h.1

/-! ## What is put together -/

/-- Keys are complained of exactly when both reports have them. -/
theorem mem_duplicates_iff {merged report : Report} {key : String} :
    key ∈ duplicates merged report ↔ key ∈ merged.map (·.1) ∧ key ∈ report.map (·.1) := by
  rw [duplicates, (List.mergeSort_perm _ _).mem_iff, List.mem_filter, List.contains_iff_mem,
    and_comm]

/-- Keys are complained of in ascending order. -/
theorem pairwise_duplicates (merged report : Report) :
    (duplicates merged report).Pairwise (· ≤ ·) :=
  Table.pairwise_mergeSort id _

/-- No key is complained of twice when the report has no key twice. -/
theorem nodup_duplicates {merged report : Report} (h : (report.map (·.1)).Nodup) :
    (duplicates merged report).Nodup :=
  (List.mergeSort_perm _ _).nodup_iff.mpr (h.filter _)

/-- Before a clash there is none. -/
theorem clash?_take {merged : Report} {offered : List (Option Report)} {n : Nat}
    (h : clash? merged offered = some n) : clash? merged (offered.take n) = none := by
  induction offered generalizing merged n with
  | nil => cases h
  | cons offer rest ih =>
    cases offer with
    | none =>
      obtain ⟨m, hm, rfl⟩ := Option.map_eq_some_iff.mp h
      rw [List.take_succ_cons, clash?, ih hm, Option.map_none]
    | some report =>
      rw [clash?] at h
      by_cases hd : (duplicates merged report).isEmpty = true
      · rw [if_pos hd] at h
        obtain ⟨m, hm, rfl⟩ := Option.map_eq_some_iff.mp h
        rw [List.take_succ_cons, clash?, if_pos hd, ih hm, Option.map_none]
      · rw [if_neg hd] at h
        obtain rfl := Option.some.inj h
        rfl

/-- Reports that are offered clash exactly when they are not apart from one another. -/
theorem clash?_nil_eq_none_iff {offered : List (Option Report)} :
    clash? [] offered = none ↔ offered.reduceOption.Pairwise Report.Apart := by
  rw [clash?_eq_none_iff]
  exact and_iff_left fun report _ => List.disjoint_nil_left _

/-! ## Runs -/

variable (view : View σ) (s : σ) (readings : Readings) (r : Registry)

/-- When all reports are apart, they are put together, and those who have made them are stamped. -/
theorem result_collectAll_of_pairwise
    (h : (offers view readings 0 r.collectors s).reduceOption.Pairwise Report.Apart) :
    ((collectAll readings r).run view s).1.result =
      .ok (.ok (gathered (offers view readings 0 r.collectors s)),
        ⟨stamped readings 0 r.collectors (offers view readings 0 r.collectors s)⟩) := by
  rcases result_collectAll view s readings r with ⟨-, hrun⟩ | ⟨n, c, report, hclash, -⟩
  · exact hrun
  · rw [clash?_nil_eq_none_iff.mpr h] at hclash
    cases hclash

/-- When two reports have a common key, the run names the first collector whose report has a key of
those before it. -/
theorem result_collectAll_of_not_pairwise
    (h : ¬ (offers view readings 0 r.collectors s).reduceOption.Pairwise Report.Apart) :
    ∃ n c report, clash? [] (offers view readings 0 r.collectors s) = some n ∧
      r.collectors[n]? = some c ∧
      (offers view readings 0 r.collectors s)[n]? = some (some report) ∧
      ((collectAll readings r).run view s).1.result =
        .ok (.error ⟨duplicateFailure c.name (duplicates (gathered
            ((offers view readings 0 r.collectors s).take n)) report), none⟩,
          ⟨stamped readings 0 r.collectors ((offers view readings 0 r.collectors s).take n)⟩) := by
  rcases result_collectAll view s readings r with ⟨hclash, -⟩ | hrun
  · exact absurd (clash?_nil_eq_none_iff.mp hclash) h
  · exact hrun

section Fixed

variable {view s readings r} {a : Answers}

/-- Against fixed answers, asking changes nothing. -/
theorem asked_of_gives (h : view.Gives s a) (position : Nat) (cs : List Collector) :
    asked view readings position cs s = s := by
  induction cs generalizing position with
  | nil => rfl
  | cons c rest ih =>
    have hstate : (c.offer view (readings.due position) s).2 = s := by
      rw [Collector.offer, Query.evaluate_of_gives h]
      split <;> rfl
    rw [asked, hstate, ih]

/-- Against fixed answers, a collector that offers nothing may be replaced by another one of that
kind. -/
private theorem offers_set (h : view.Gives s a) {cs : List Collector} {i : Nat} {d : Collector}
    (hi : (offers view readings 0 cs s)[i]? = some none)
    (hd : (d.offer view (readings.due i) s).1 = none) :
    offers view readings 0 (cs.set i d) s = offers view readings 0 cs s := by
  refine List.ext_getElem? fun j => ?_
  by_cases hj : i = j
  · subst hj
    have hlength : i < cs.length := by
      by_contra hge
      rw [getElem?_offers, List.getElem?_eq_none (Nat.le_of_not_lt hge)] at hi
      cases hi
    rw [hi, getElem?_offers, List.getElem?_set_self hlength, asked_of_gives h, Nat.zero_add,
      Option.map_some, hd]
  · rw [getElem?_offers, getElem?_offers, List.getElem?_set_ne hj, asked_of_gives h,
      asked_of_gives h]

private theorem length_stamped (position : Nat) (cs : List Collector)
    (offered : List (Option Report)) :
    (stamped readings position cs offered).length = cs.length := by
  induction cs generalizing position offered with
  | nil => cases offered <;> rfl
  | cons c rest ih =>
    cases offered with
    | nil => rfl
    | cons offer others => exact congrArg (· + 1) (ih _ _)

/-- A collector without a stamp may be replaced before or after the others are stamped. -/
private theorem stamped_set {cs : List Collector} {offered : List (Option Report)} {i : Nat}
    (hi : offered[i]?.join = none) (d : Collector) :
    stamped readings 0 (cs.set i d) offered = (stamped readings 0 cs offered).set i d := by
  have hlength : (stamped readings 0 cs offered).length = cs.length := length_stamped ..
  refine List.ext_getElem? fun j => ?_
  rw [getElem?_stamped, List.getElem?_set, List.getElem?_set, getElem?_stamped, hlength]
  by_cases hj : i = j
  · subst hj
    rw [if_pos rfl, if_pos rfl, hi]
    by_cases hlt : i < cs.length
    · rw [if_pos hlt]
      rfl
    · rw [if_neg hlt]
      rfl
  · rw [if_neg hj, if_neg hj]

/-- Against fixed answers, a collector that offers nothing may be replaced by any other one that
offers nothing: what is returned and the other collectors stay the same. -/
theorem result_collectAll_set (h : view.Gives s a) {i : Nat} {d : Collector}
    (hi : (offers view readings 0 r.collectors s)[i]? = some none)
    (hd : (d.offer view (readings.due i) s).1 = none) :
    ((collectAll readings ⟨r.collectors.set i d⟩).run view s).1.result =
      ((collectAll readings r).run view s).1.result.map fun o =>
        (o.1, ⟨o.2.collectors.set i d⟩) := by
  have hset := result_collectAll view s readings ⟨r.collectors.set i d⟩
  rw [offers_set h hi hd] at hset
  rcases result_collectAll view s readings r with
    ⟨hclash, hrun⟩ | ⟨n, c, report, hclash, hc, hr, hrun⟩
  · rcases hset with ⟨-, hset⟩ | ⟨_, _, _, hsome, -⟩
    · have hnone : (offers view readings 0 r.collectors s)[i]?.join = none := by rw [hi]; rfl
      rw [hset, hrun, stamped_set hnone]
      rfl
    · rw [hclash] at hsome
      cases hsome
  · rcases hset with ⟨hnone, -⟩ | ⟨n', c', report', hclash', hc', hr', hset⟩
    · rw [hclash] at hnone
      cases hnone
    · obtain rfl : n = n' := Option.some.inj (hclash.symm.trans hclash')
      obtain rfl : report = report' :=
        Option.some.inj (Option.some.inj (hr.symm.trans hr'))
      have hne : i ≠ n := by
        rintro rfl
        rw [hi] at hr
        cases hr
      rw [List.getElem?_set_ne hne, hc] at hc'
      obtain rfl : c = c' := Option.some.inj hc'
      have hnone : ((offers view readings 0 r.collectors s).take n)[i]?.join = none := by
        rw [List.getElem?_take]
        split
        · rw [hi]
          rfl
        · rfl
      rw [hset, hrun, stamped_set hnone]
      rfl

/-- Against fixed answers and a standing clock, the order of registration decides neither whether
there is a clash nor which entries are returned. -/
theorem result_collectAll_perm (h : view.Gives s a) (now : Float) {other : Registry}
    (hperm : other.collectors.Perm r.collectors) :
    let outcome := ((collectAll (.constant now) r).run view s).1.result
    let reordered := ((collectAll (.constant now) other).run view s).1.result
    ((∃ raised after, outcome = .ok (.error raised, after)) ↔
      ∃ raised after, reordered = .ok (.error raised, after)) ∧
    ∀ merged after, outcome = .ok (.ok merged, after) →
      ∃ merged' after', reordered = .ok (.ok merged', after') ∧ merged'.Perm merged := by
  intro outcome reordered
  have hreports : (offers view (.constant now) 0 other.collectors s).reduceOption.Perm
      (offers view (.constant now) 0 r.collectors s).reduceOption := by
    rw [offers_of_gives h, offers_of_gives h]
    exact (hperm.map _).filterMap id
  have hpairs := hreports.pairwise_iff (R := Report.Apart) fun h => h.symm
  by_cases hp : (offers view (.constant now) 0 r.collectors s).reduceOption.Pairwise Report.Apart
  · have hone : outcome = _ := result_collectAll_of_pairwise view s (.constant now) r hp
    have hother : reordered = _ :=
      result_collectAll_of_pairwise view s (.constant now) other (hpairs.mpr hp)
    refine ⟨iff_of_false ?_ ?_, ?_⟩
    · rintro ⟨raised, after, hraised⟩
      rw [hone] at hraised
      cases hraised
    · rintro ⟨raised, after, hraised⟩
      rw [hother] at hraised
      cases hraised
    · intro merged after hmerged
      rw [hone] at hmerged
      cases hmerged
      exact ⟨_, _, hother, hreports.flatten⟩
  · obtain ⟨_, _, _, -, -, -, hone⟩ :=
      result_collectAll_of_not_pairwise view s (.constant now) r hp
    obtain ⟨_, _, _, -, -, -, hother⟩ :=
      result_collectAll_of_not_pairwise view s (.constant now) other (mt hpairs.mp hp)
    refine ⟨iff_of_true ⟨_, _, hone⟩ ⟨_, _, hother⟩, ?_⟩
    intro merged after hmerged
    cases hone.symm.trans hmerged

end Fixed

/-- A key that is complained of is one of the report, and of a report that was offered earlier. -/
theorem mem_duplicates_gathered_iff {offered : List (Option Report)} {n : Nat} {report : Report}
    {key : String} :
    key ∈ duplicates (gathered (offered.take n)) report ↔ key ∈ report.map (·.1) ∧
      ∃ i < n, ∃ earlier, offered[i]? = some (some earlier) ∧ key ∈ earlier.map (·.1) := by
  rw [mem_duplicates_iff, and_comm]
  refine and_congr_right fun _ => ?_
  rw [gathered, List.map_flatten, List.mem_flatten]
  constructor
  · rintro ⟨keys, hkeys, hkey⟩
    obtain ⟨earlier, hearlier, rfl⟩ := List.mem_map.mp hkeys
    obtain ⟨i, hi⟩ := List.mem_iff_getElem?.mp (List.reduceOption_mem_iff.mp hearlier)
    rw [List.getElem?_take, Option.ite_none_right_eq_some] at hi
    exact ⟨i, hi.1, earlier, hi.2, hkey⟩
  · rintro ⟨i, hi, earlier, hearlier, hkey⟩
    refine ⟨_, List.mem_map_of_mem (List.reduceOption_mem_iff.mpr ?_), hkey⟩
    rw [← List.getElem?_take_of_lt hi] at hearlier
    exact List.mem_of_getElem? hearlier

/-- The collectors that offer a report are those that are due when they are asked and make one. When
no two of their reports have a common key, a run returns all of their entries and no others, stamps
these collectors and leaves the others alone. When two of them have one, the run names the first
collector whose report has a key of those before it, and all keys of that kind in ascending order.
While the cluster stands still, a collector that offers nothing may be replaced by another one of
that kind without an effect on the result or on the others; and while the clock stands still as
well, the order of registration decides neither whether there is a clash nor which entries are
returned. -/
theorem collectAll_union (view : View σ) (s : σ) (readings : Readings) (r : Registry) :
    let offered := offers view readings 0 r.collectors s
    let outcome := ((collectAll readings r).run view s).1.result
    (∀ i report, offered[i]? = some (some report) ↔ ∃ c : Collector, r.collectors[i]? = some c ∧
      c.isDue (readings.due i) = true ∧
      (c.report.run view (asked view readings 0 (r.collectors.take i) s)).1.result = .ok report) ∧
    (offered.reduceOption.Pairwise Report.Apart → ∃ after,
      outcome = .ok (.ok offered.reduceOption.flatten, after) ∧
      ∀ i, after.collectors[i]? = r.collectors[i]?.map fun c : Collector =>
        if (offered[i]?.join).isSome then { c with last := readings.merged i } else c) ∧
    (¬ offered.reduceOption.Pairwise Report.Apart → ∃ n c report keys after,
      r.collectors[n]? = some c ∧ offered[n]? = some (some report) ∧
      (offered.take n).reduceOption.Pairwise Report.Apart ∧
      outcome = .ok (.error ⟨.collection
        ("Collector '" ++ c.name ++ "' reported duplicate keys: " ++ ", ".intercalate keys)
        (some c.name), none⟩, after) ∧
      keys ≠ [] ∧ keys.Pairwise (· ≤ ·) ∧ ((report.map (·.1)).Nodup → keys.Nodup) ∧
      ∀ key, key ∈ keys ↔ key ∈ report.map (·.1) ∧
        ∃ i < n, ∃ earlier, offered[i]? = some (some earlier) ∧ key ∈ earlier.map (·.1)) ∧
    ∀ a, view.Gives s a →
      (∀ i d, offered[i]? = some none → (d.offer view (readings.due i) s).1 = none →
        ((collectAll readings ⟨r.collectors.set i d⟩).run view s).1.result =
          outcome.map fun o => (o.1, ⟨o.2.collectors.set i d⟩)) ∧
      ∀ now (other : Registry), readings = .constant now → other.collectors.Perm r.collectors →
        let reordered := ((collectAll readings other).run view s).1.result
        ((∃ raised after, outcome = .ok (.error raised, after)) ↔
          ∃ raised after, reordered = .ok (.error raised, after)) ∧
        ∀ merged after, outcome = .ok (.ok merged, after) →
          ∃ merged' after', reordered = .ok (.ok merged', after') ∧ merged'.Perm merged := by
  intro offered outcome
  refine ⟨fun i report => ?_, fun h => ?_, fun h => ?_, fun a ha => ⟨?_, ?_⟩⟩
  · rw [getElem?_offers, Option.map_eq_some_iff]
    simp only [offer_eq_some_iff, Nat.zero_add]
  · refine ⟨_, result_collectAll_of_pairwise view s readings r h, fun i => ?_⟩
    rw [getElem?_stamped, Nat.zero_add]
  · obtain ⟨n, c, report, hclash, hc, hr, hrun⟩ :=
      result_collectAll_of_not_pairwise view s readings r h
    refine ⟨n, c, report, _, _, hc, hr, clash?_nil_eq_none_iff.mp (clash?_take hclash), hrun, ?_,
      pairwise_duplicates _ _, nodup_duplicates, fun key => mem_duplicates_gathered_iff⟩
    obtain ⟨found, hfound, hmeets⟩ := report_of_clash? hclash
    rw [hr, Option.some.injEq, Option.some.injEq] at hfound
    rw [← hfound, ← isEmpty_duplicates_iff, List.isEmpty_iff] at hmeets
    exact hmeets
  · intro i d hi hd
    exact result_collectAll_set ha hi hd
  · rintro now other rfl hperm
    exact result_collectAll_perm ha now hperm

/-- Two collectors whose reports have no common key, and one between them that fails. -/
def fleet : Registry :=
  ⟨[{ name := "maps", source := .fixed [("map-count", "1")] },
    { name := "caches", source := .failing (.clusterUnavailable none none) },
    { name := "queues", source := .fixed [("queue-count", "2")] }]⟩

/-- The reports are put together, and the collector that fails stays as it is. -/
theorem collectAll_union_fleet : ∃ after,
    ((collectAll (.constant 1000000.0) fleet).run Cluster.view {}).1.result =
      .ok (.ok [("map-count", "1"), ("queue-count", "2")], after) ∧
    after.collectors[1]? = fleet.collectors[1]? := by
  have hoffers : offers Cluster.view (.constant 1000000.0) 0 fleet.collectors {} =
      [some [("map-count", "1")], none, some [("queue-count", "2")]] := by
    with_unfolding_all rfl
  obtain ⟨-, hunion, -⟩ := collectAll_union Cluster.view {} (.constant 1000000.0) fleet
  rw [hoffers] at hunion
  obtain ⟨after, hresult, hstamps⟩ := hunion (by simp [List.reduceOption, Report.Apart])
  exact ⟨after, hresult, hstamps 1⟩

end Registry

end MapMetrics
