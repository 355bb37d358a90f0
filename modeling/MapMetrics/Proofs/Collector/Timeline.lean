import MapMetrics.Proofs.Collector.Roster
import MapMetrics.Proofs.Number.Difference
import Mathlib.Data.List.Chain
import Mathlib.Data.List.Induction

/-!
# The stamps of a collector over time

However a collector is registered, taken out, switched and asked, its stamp is that of its latest
completed collection, and attempts that are skipped or fail leave no trace on it. So completed
collections are an interval apart, and a collector whose interval has passed since the last one is
asked again by the next run that reaches it, no matter how often it has failed before.
-/

namespace MapMetrics.Roster

variable {σ : Type}

/-- The completed collections of a collector in a run, in order. -/
def completions (view : View σ) (i : Nat) : Roster → List (Action σ) → List Completion
  | _, [] => []
  | r, a :: rest =>
    (r.completion? view i a).toList ++ completions view i (r.apply view a) rest

/-- The clock readings of an action, in order. -/
def ticks (view : View σ) (r : Roster) : Action σ → List Float
  | .collectAll s readings =>
    Registry.ticksFrom readings 0 [] r.registry.collectors
      (Registry.offers view readings 0 r.registry.collectors s)
  | .collect i s due now =>
    if (r.collectors i).enabled then
      due :: if (r.collectors i).isDue due &&
        ((r.collectors i).report.run view s).1.result.toOption.isSome then [now] else []
    else []
  | _ => []

/-- The clock readings of a run, in order. -/
def clock (view : View σ) : Roster → List (Action σ) → List Float
  | _, [] => []
  | r, a :: rest => r.ticks view a ++ clock view (r.apply view a) rest

/-- The stamp of the latest of some completed collections, zero before the first. -/
def latest (done : List Completion) : Float :=
  (done.getLast?.map (·.stamp)).getD 0.0

/-! ## Stamps -/

variable (view : View σ) (r : Roster) (i : Nat)

theorem after_concat (xs : List (Action σ)) (a : Action σ) :
    r.after view (xs ++ [a]) = (r.after view xs).apply view a := by
  rw [after, after, List.foldl_append, List.foldl_cons, List.foldl_nil]

theorem completions_concat (xs : List (Action σ)) (a : Action σ) :
    completions view i r (xs ++ [a]) =
      completions view i r xs ++ ((r.after view xs).completion? view i a).toList := by
  induction xs generalizing r with
  | nil => exact List.append_nil _
  | cons x rest ih =>
    rw [List.cons_append, completions, completions, ih, List.append_assoc]
    rfl

/-- The stamp of a new collector is that of its latest completed collection. -/
theorem last_after (hfresh : (r.collectors i).last = 0.0) (actions : List (Action σ)) :
    ((r.after view actions).collectors i).last = latest (completions view i r actions) := by
  induction actions using List.reverseRecOn with
  | nil => exact hfresh
  | append_singleton xs a ih =>
    rw [after_concat, last_apply, stampAfter, completions_concat, ih]
    cases (r.after view xs).completion? view i a with
    | none => rw [Option.toList_none, List.append_nil]; rfl
    | some done => rw [Option.toList_some, latest, latest, List.getLast?_concat]; rfl

/-! ## Intervals -/

theorem isDue_iff {c : Collector} {now : Float} :
    c.isDue now = true ↔ c.enabled = true ∧ c.interval ≤ now - c.last := by
  rw [Collector.isDue, Bool.and_eq_true, decide_eq_true_iff]

/-- Between two completed collections lies the interval. -/
theorem completions_isChain (hfresh : (r.collectors i).last = 0.0) (actions : List (Action σ)) :
    (completions view i r actions).IsChain fun a b => b.interval ≤ b.due - a.stamp := by
  induction actions using List.reverseRecOn with
  | nil => exact List.isChain_nil
  | append_singleton xs a ih =>
    rw [completions_concat, List.isChain_append]
    refine ⟨ih, ?_, fun x hx y hy => ?_⟩
    · cases (r.after view xs).completion? view i a with
      | none => exact List.isChain_nil
      | some done => exact List.isChain_singleton _
    · rw [Option.mem_def, Option.head?_toList] at hy
      obtain ⟨hdue, hinterval⟩ := isDue_of_completion hy
      have hlast := last_after view r i hfresh xs
      rw [latest, Option.mem_def.mp hx] at hlast
      have hlate := (isDue_iff.mp hdue).2
      rwa [← hinterval, hlast] at hlate

/-- For a completed collection the clock has been read twice. -/
theorem sublist_ticks {a : Action σ} {done : Completion}
    (h : r.completion? view i a = some done) :
    [done.due, done.stamp].Sublist (r.ticks view a) := by
  cases a with
  | register j => cases h
  | unregister name => cases h
  | setEnabled name enabled => cases h
  | setInterval name interval => cases h
  | setSource j source => cases h
  | collectAll s readings =>
    obtain ⟨p, hp, h⟩ := Option.bind_eq_some_iff.mp h
    split at h
    · case isTrue merged =>
      obtain rfl := Option.some.inj h
      have hlt := (List.getElem?_eq_some_iff.mp (getElem?_registry hp)).1
      have hticks : [readings.due (0 + p), readings.merged (0 + p)].Sublist _ :=
        Registry.sublist_ticksFrom hlt merged
      rwa [Nat.zero_add] at hticks
    · cases h
  | collect j s due now =>
    rw [completion?] at h
    split at h
    · case isTrue complete =>
      obtain rfl := Option.some.inj h
      obtain ⟨rfl, hdue, hok⟩ := complete
      have hreport : ((r.collectors i).report.run view s).1.result.toOption.isSome = true := by
        rw [Collector.result_collect, if_pos hdue] at hok
        cases hr : ((r.collectors i).report.run view s).1.result with
        | error e => rw [hr] at hok; cases hok
        | ok report => rfl
      rw [ticks, if_pos (isDue_iff.mp hdue).1, hdue, hreport]
      exact List.Sublist.refl _
    · cases h

/-- The completed collections of a run appear on its clock in order. -/
theorem sublist_clock (actions : List (Action σ)) :
    ((completions view i r actions).flatMap fun d => [d.due, d.stamp]).Sublist
      (clock view r actions) := by
  induction actions generalizing r with
  | nil => exact List.Sublist.refl _
  | cons a rest ih =>
    rw [completions, clock, List.flatMap_append]
    refine List.Sublist.append ?_ (ih _)
    cases h : r.completion? view i a with
    | none => exact List.nil_sublist _
    | some done => exact sublist_ticks view r i h

/-- On a clock that never goes back, collections are completed after they are found due, and found
due after the ones before are completed. -/
theorem completions_ordered {actions : List (Action σ)}
    (hclock : (clock view r actions).Pairwise (· ≤ ·)) :
    (∀ d ∈ completions view i r actions, d.due ≤ d.stamp) ∧
      (completions view i r actions).Pairwise fun a b => a.stamp ≤ b.due := by
  obtain ⟨hwithin, hbetween⟩ :=
    List.pairwise_flatMap.mp (hclock.sublist (sublist_clock view r i actions))
  refine ⟨fun d hd => ?_, hbetween.imp fun h => ?_⟩
  · exact List.rel_of_pairwise_cons (hwithin d hd) (List.mem_singleton_self _)
  · exact h _ (List.mem_cons_of_mem _ (List.mem_singleton_self _)) _ List.mem_cons_self

/-- On a clock that never goes back, the interval lies between two completions, not only between a
completion and the next reading that finds the collector due. -/
theorem completions_apart (hfresh : (r.collectors i).last = 0.0) {actions : List (Action σ)}
    (hclock : (clock view r actions).Pairwise (· ≤ ·)) :
    (completions view i r actions).IsChain fun a b => b.interval ≤ b.stamp - a.stamp := by
  obtain ⟨hwithin, hbetween⟩ := completions_ordered view r i hclock
  refine List.isChain_iff_forall_rel_of_append_cons_cons.mpr fun {a b before after} h => ?_
  have hinterval : b.interval ≤ b.due - a.stamp :=
    List.isChain_iff_forall_rel_of_append_cons_cons.mp
      (completions_isChain view r i hfresh actions) h
  have hdue : a.stamp ≤ b.due :=
    List.isChain_iff_forall_rel_of_append_cons_cons.mp hbetween.isChain h
  have hmem : b ∈ completions view i r actions := by
    rw [h]
    exact List.mem_append_right _ (List.mem_cons_of_mem _ List.mem_cons_self)
  exact Rounding.float_le_sub_of_le_sub hinterval hdue (hwithin b hmem)

/-! ## Attempts -/

/-- A run over all collectors attempts a collection by a collector at a position: it asks for the
report, and the report is merged, or clashes and ends the run, or fails and this is reported. -/
def Attempts (s : σ) (readings : Registry.Readings) (p : Nat) : Prop :=
  let c := r.collectors i
  let outcome := ((Registry.collectAll readings r.registry).run view s).1
  let asked := (c.report.run view
    (Registry.asked view readings 0 (r.registry.collectors.take p) s)).1
  ∃ before after, outcome.events = before ++ (asked.events ++ after) ∧
    ((∃ report, asked.result = .ok report ∧ r.completion? view i (.collectAll s readings) =
        some ⟨readings.due p, c.interval, readings.merged p⟩) ∨
      (∃ report keys registry, asked.result = .ok report ∧
        outcome.result = .ok (.error ⟨Registry.duplicateFailure c.name keys, none⟩, registry)) ∨
      ∃ e, asked.result = .error e ∧ after.head? = some (Registry.failureEvent c e))

/-- A registered collector that is due and reached is attempted. -/
theorem attempts_of_isDue {s : σ} {readings : Registry.Readings} {p : Nat}
    (hp : r.registered.idxOf? i = some p)
    (hdue : (r.collectors i).isDue (readings.due p) = true)
    (hreached : ∀ n, Registry.clash? [] (Registry.offers view readings 0 r.registry.collectors s) =
      some n → p ≤ n) : Attempts view r i s readings p := by
  have hc := getElem?_registry hp
  obtain ⟨before, after, hevents, hfails⟩ :=
    Registry.collectFrom_asks view readings hc (by rwa [Nat.zero_add]) hreached
  refine ⟨before, after, (Query.events_bind_pure view _ _ s).trans hevents, ?_⟩
  cases hasked : ((r.collectors i).report.run view
      (Registry.asked view readings 0 (r.registry.collectors.take p) s)).1.result with
  | error e => exact Or.inr (Or.inr ⟨e, rfl, hfails e hasked⟩)
  | ok report =>
    have hoffered : (Registry.offers view readings 0 r.registry.collectors s)[p]? =
        some (some report) := by
      rw [Registry.getElem?_offers, hc, Option.map_some, Nat.zero_add, Option.some.injEq,
        Registry.offer_eq_some_iff]
      exact ⟨hdue, hasked⟩
    have hcomplete (h : Registry.merges [] (Registry.offers view readings 0 r.registry.collectors s)
        p = true) : r.completion? view i (.collectAll s readings) =
          some ⟨readings.due p, (r.collectors i).interval, readings.merged p⟩ := by
      rw [completion?, hp, Option.bind_some, if_pos h]
    rcases Registry.result_collectAll view s readings r.registry with
      ⟨hclash, -⟩ | ⟨n, c, other, hclash, hn, -, hrun⟩
    · refine Or.inl ⟨report, rfl, hcomplete ?_⟩
      rw [Registry.merges, hoffered, hclash]
      rfl
    · rcases Nat.lt_or_eq_of_le (hreached n hclash) with hlt | rfl
      · refine Or.inl ⟨report, rfl, hcomplete ?_⟩
        rw [Registry.merges, hoffered, hclash, Option.all_some, decide_eq_true hlt]
        rfl
      · obtain rfl := Option.some.inj (hc.symm.trans hn)
        exact Or.inr (Or.inl ⟨report, _, _, rfl, hrun⟩)

/-- A run over all collectors completes no collection of one that is not due, fails, or clashes. -/
theorem completion?_collectAll_eq_none {s : σ} {readings : Registry.Readings} {p : Nat}
    (hp : r.registered.idxOf? i = some p)
    (h : (r.collectors i).isDue (readings.due p) = false ∨
      (∃ e, ((r.collectors i).report.run view
        (Registry.asked view readings 0 (r.registry.collectors.take p) s)).1.result = .error e) ∨
      Registry.clash? [] (Registry.offers view readings 0 r.registry.collectors s) = some p) :
    r.completion? view i (.collectAll s readings) = none := by
  rw [completion?, hp, Option.bind_some]
  refine if_neg fun merged => ?_
  obtain ⟨report, hoffered⟩ := Registry.exists_report_of_merges merged
  rw [Registry.getElem?_offers, getElem?_registry hp, Option.map_some, Option.some.injEq,
    Registry.offer_eq_some_iff, Nat.zero_add] at hoffered
  rcases h with hearly | ⟨e, hfails⟩ | hclash
  · exact Bool.false_ne_true (hearly.symm.trans hoffered.1)
  · cases hfails.symm.trans hoffered.2
  · rw [Registry.merges, hclash, Option.all_some, decide_eq_false (Nat.lt_irrefl p),
      Bool.and_false] at merged
    cases merged

/-- A collector that is asked alone completes no collection when it is not due, fails, or has a
value that denotes no integer. -/
theorem completion?_collect_eq_none {s : σ} {due time : Float}
    (h : (r.collectors i).isDue due = false ∨
      (∃ e, ((r.collectors i).report.run view s).1.result = .error e) ∨
      ∃ report m, ((r.collectors i).report.run view s).1.result = .ok report ∧
        report.mapM ((r.collectors i).metricOf time) = .error m) :
    r.completion? view i (.collect i s due time) = none := by
  refine if_neg ?_
  rintro ⟨-, hdue, hok⟩
  rw [Collector.result_collect, if_pos hdue] at hok
  rcases h with hearly | ⟨e, hfails⟩ | ⟨report, m, hreport, hvalue⟩
  · exact Bool.false_ne_true (hearly.symm.trans hdue)
  · rw [hfails] at hok
    cases hok
  · simp only [hreport, Except.bind, hvalue] at hok
    cases hok

/-- In every run, the stamp of a collector that is new at the start is that of its latest completed
collection. It stays what it is when the collector is not due, fails, has a value that denotes no
integer, or clashes, and in general when no collection is completed. Two completed collections
after each other are an interval apart: the earlier is completed that long before the later is
found due, and on a clock that never goes back also that long before the later is completed.
Whatever has failed since, an enabled collector whose interval has passed since its latest completed
collection is attempted by the next run over all collectors that reaches it. -/
theorem last_is_latest_completion {r : Roster} {i : Nat} (hfresh : (r.collectors i).last = 0.0)
    (actions : List (Action σ)) :
    let now := r.after view actions
    let done := completions view i r actions
    (now.collectors i).last = latest done ∧
    (∀ a, now.completion? view i a = none →
      ((now.apply view a).collectors i).last = latest done) ∧
    (∀ s readings p, now.registered.idxOf? i = some p →
      (now.collectors i).isDue (readings.due p) = false ∨
        (∃ e, ((now.collectors i).report.run view
          (Registry.asked view readings 0 (now.registry.collectors.take p) s)).1.result =
            .error e) ∨
        Registry.clash? [] (Registry.offers view readings 0 now.registry.collectors s) = some p →
      ((now.apply view (.collectAll s readings)).collectors i).last = latest done) ∧
    (∀ s due time, (now.collectors i).isDue due = false ∨
        (∃ e, ((now.collectors i).report.run view s).1.result = .error e) ∨
        (∃ report m, ((now.collectors i).report.run view s).1.result = .ok report ∧
          report.mapM ((now.collectors i).metricOf time) = .error m) →
      ((now.apply view (.collect i s due time)).collectors i).last = latest done) ∧
    (done.IsChain fun a b => b.interval ≤ b.due - a.stamp) ∧
    ((clock view r actions).Pairwise (· ≤ ·) →
      (∀ d ∈ done, d.due ≤ d.stamp) ∧ (done.Pairwise fun a b => a.stamp ≤ b.due) ∧
      done.IsChain fun a b => b.interval ≤ b.stamp - a.stamp) ∧
    ∀ s readings p, now.registered.idxOf? i = some p → (now.collectors i).enabled = true →
      (now.collectors i).interval ≤ readings.due p - latest done →
      (∀ n, Registry.clash? [] (Registry.offers view readings 0 now.registry.collectors s) =
        some n → p ≤ n) →
      now.Attempts view i s readings p := by
  intro now done
  have hlast : (now.collectors i).last = latest done := last_after view r i hfresh actions
  have hkept (a : Action σ) (h : now.completion? view i a = none) :
      ((now.apply view a).collectors i).last = latest done := by
    rw [last_apply, stampAfter, h, ← hlast]
    rfl
  refine ⟨hlast, hkept, fun s readings p hp h => ?_, fun s due time h => ?_,
    completions_isChain view r i hfresh actions, fun hclock => ?_,
    fun s readings p hp henabled hlate hreached => ?_⟩
  · exact hkept _ (completion?_collectAll_eq_none view now i hp h)
  · exact hkept _ (completion?_collect_eq_none view now i h)
  · obtain ⟨hwithin, hbetween⟩ := completions_ordered view r i hclock
    exact ⟨hwithin, hbetween, completions_apart view r i hfresh hclock⟩
  · rw [← hlast] at hlate
    exact attempts_of_isDue view now i hp (isDue_iff.mpr ⟨henabled, hlate⟩) hreached

/-- A single collector of a node count, by the number zero. -/
def station : Roster where
  collectors _ := { name := "nodes", source := .fixed [("node-count", "3")] }

/-- The collector is registered and asked, fails once, and is asked again. -/
def shift : List (Action Cluster) :=
  [.register 0,
    .collectAll {} (.constant 100.0),
    .setSource 0 (.failing (.clusterUnavailable none none)),
    .collectAll {} (.constant 200.0),
    .setSource 0 (.fixed [("node-count", "4")]),
    .collect 0 {} 300.0 301.0]

/-- The failure leaves no trace on the stamp, and after the next interval the collector is attempted
again. -/
theorem last_is_latest_completion_station :
    (station.collectors 0).last = 0.0 ∧
      ((station.after Cluster.view shift).collectors 0).last = 301.0 ∧
      (station.after Cluster.view shift).Attempts Cluster.view 0 {} (.constant 400.0) 0 := by
  have hdone : completions Cluster.view 0 station shift =
      [⟨100.0, 60.0, 100.0⟩, ⟨300.0, 60.0, 301.0⟩] := by
    with_unfolding_all rfl
  obtain ⟨hlast, -, -, -, -, -, hretry⟩ :=
    last_is_latest_completion Cluster.view (r := station) (i := 0) rfl shift
  rw [hdone] at hlast hretry
  refine ⟨rfl, hlast, hretry {} (.constant 400.0) 0 ?_ ?_ ?_ fun n hn => Nat.zero_le n⟩
  · with_unfolding_all rfl
  · with_unfolding_all rfl
  · have hinterval : ((station.after Cluster.view shift).collectors 0).interval = 60.0 := by
      with_unfolding_all rfl
    rw [hinterval]
    decide +kernel

end MapMetrics.Roster
