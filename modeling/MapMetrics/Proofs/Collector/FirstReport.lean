import MapMetrics.Proofs.Collector.Interval

/-!
# First reports

A new collector has the stamp zero, as if it had completed a collection when the clock began. So a
collector that has completed none is held back too: until the clock has come to its interval it is
passed by, and the run is the same as if there were anything else in its place that is not due. From
then on it is asked by the next run that reaches it.
-/

namespace MapMetrics

open Rounding

namespace Registry

/-- A collector that is not due may be replaced by another one that is not: nothing but its place in
the outcome tells the runs apart. -/
theorem collectFrom_set (readings : Readings) {position : Nat} {merged : Report}
    {cs : List Collector} {p : Nat} {c d : Collector} (hc : cs[p]? = some c)
    (hcdue : c.isDue (readings.due (position + p)) = false)
    (hddue : d.isDue (readings.due (position + p)) = false) :
    collectFrom readings position merged (cs.set p d) = (do
      let round ← collectFrom readings position merged cs
      return { round with collectors := round.collectors.set p d }) := by
  induction cs generalizing position merged p with
  | nil => cases hc
  | cons first rest ih =>
    cases p with
    | zero =>
      obtain rfl := Option.some.inj hc
      rw [Nat.add_zero] at hcdue hddue
      rw [List.set_cons_zero, collectFrom, collectFrom, if_neg (Bool.not_eq_true _ ▸ hddue),
        if_neg (Bool.not_eq_true _ ▸ hcdue), Query.bind_assoc]
      rfl
    | succ p =>
      rw [← Nat.add_assoc, Nat.add_right_comm] at hcdue hddue
      have hrest (merged : Report) :
          collectFrom readings (position + 1) merged (rest.set p d) = _ := ih hc hcdue hddue
      rw [List.set_cons_succ, collectFrom, collectFrom]
      by_cases hdue : first.isDue (readings.due position) = true
      · rw [if_pos hdue, if_pos hdue, Query.bind_assoc]
        refine congrArg _ (funext fun outcome => ?_)
        cases outcome with
        | error r =>
          simp only [hrest, Query.bind_assoc]
          rfl
        | ok report =>
          dsimp only
          split
          · simp only [hrest, Query.bind_assoc]
            rfl
          · rfl
      · rw [if_neg hdue, if_neg hdue, hrest, Query.bind_assoc, Query.bind_assoc]
        rfl

/-- A run over all collectors passes by the one at a position: from whatever source this collector
would take its report, the run makes the same requests, reports the same events, has the same
outcome and leaves the collector as it is. -/
def PassesBy (readings : Readings) (r : Registry) (p : Nat) : Prop :=
  ∀ c, r.collectors[p]? = some c → ∀ source,
    collectAll readings ⟨r.collectors.set p { c with source := source }⟩ = (do
      let (outcome, after) ← collectAll readings r
      return (outcome, ⟨after.collectors.set p { c with source := source }⟩))

theorem passesBy_of_not_due {readings : Readings} {r : Registry} {p : Nat}
    (h : ∀ c, r.collectors[p]? = some c → c.isDue (readings.due p) = false) :
    PassesBy readings r p := by
  intro c hc source
  have hdue : c.isDue (readings.due (0 + p)) = false := by
    rw [Nat.zero_add]
    exact h c hc
  have hset : collectFrom readings 0 [] (r.collectors.set p { c with source := source }) = _ :=
    collectFrom_set readings hc hdue hdue
  rw [collectAll, hset, collectAll, Query.bind_assoc, Query.bind_assoc]
  rfl

end Registry

namespace Roster

variable {σ : Type} {view : View σ} {r : Roster} {i : Nat} {actions : List (Action σ)}

/-- The stamp of a new collector lets its interval begin with the clock. -/
theorem isDue_new_iff {c : Collector} (hlast : c.last = 0.0) {now : Float} :
    c.isDue now = true ↔ c.enabled = true ∧ c.interval ≤ now := by
  rw [isDue_iff, hlast, float_le_sub_zero_iff]

/-- Before its first completed collection a collector has the stamp it was built with. -/
theorem last_of_never (hfresh : (r.collectors i).last = 0.0)
    (hnever : completions view i r actions = []) :
    ((r.after view actions).collectors i).last = 0.0 := by
  rw [last_after view r i hfresh, hnever]
  rfl

/-- On a clock that stays below its interval, a new collector completes no collection. -/
theorem completions_of_early (hfresh : (r.collectors i).last = 0.0)
    (hset : ∀ name v, .setInterval name v ∉ actions)
    (hearly : ∀ time ∈ clock view r actions, ¬ (r.collectors i).interval ≤ time) :
    completions view i r actions = [] := by
  refine completions_eq_nil
    (P := fun c => c.last = 0.0 ∧ c.interval = (r.collectors i).interval)
    (T := fun time => ¬ (r.collectors i).interval ≤ time) (fun c time hc hbelow => ?_)
    (fun a ha r' hnone hc => ?_) ⟨hfresh, rfl⟩ hearly
  · refine Bool.eq_false_iff.mpr fun hdue => hbelow ?_
    rw [← hc.2]
    exact ((isDue_new_iff hc.1).mp hdue).2
  · have hne (name : String) (v : Float) : a ≠ .setInterval name v :=
      fun he => hset name v (he ▸ ha)
    refine ⟨?_, (interval_apply_of_ne hne r' i).trans hc.2⟩
    rw [last_apply, stampAfter, hnone]
    exact hc.1

/-- Whatever has been done, an enabled collector that was built from settings, is registered and has
completed no collection is attempted by the next run over all collectors that reaches it, if the
clock has come to its interval. If it has not, the run passes by the collector, and this goes on:
as long as the interval is the same and no reading of the clock comes to it, the collector completes
no collection. -/
theorem first_report (hbuilt : (r.collectors i).Built)
    (hnever : completions view i r actions = []) :
    let now := r.after view actions
    let c := now.collectors i
    c.enabled = true →
      (∀ s readings p, now.registered.idxOf? i = some p →
        (c.interval ≤ readings.due p →
          (∀ n, Registry.clash? [] (Registry.offers view readings 0 now.registry.collectors s) =
            some n → p ≤ n) →
          now.Attempts view i s readings p) ∧
        (¬ c.interval ≤ readings.due p →
          now.registry.PassesBy readings p ∧
            now.completion? view i (.collectAll s readings) = none)) ∧
      ∀ further, (∀ name v, .setInterval name v ∉ further) →
        (∀ time ∈ clock view now further, ¬ c.interval ≤ time) →
        completions view i now further = [] := by
  intro now c henabled
  have hlast : c.last = 0.0 := last_of_never hbuilt.last_eq hnever
  refine ⟨fun s readings p hp => ⟨fun hlate hreached => ?_, fun hearly => ?_⟩,
    fun further => completions_of_early hlast⟩
  · exact attempts_of_isDue view now i hp ((isDue_new_iff hlast).mpr ⟨henabled, hlate⟩) hreached
  · have hdue : c.isDue (readings.due p) = false :=
      Bool.eq_false_iff.mpr fun hdue => hearly ((isDue_new_iff hlast).mp hdue).2
    refine ⟨Registry.passesBy_of_not_due fun d hd => ?_,
      completion?_collectAll_eq_none view now i hp (.inl hdue)⟩
    obtain rfl := Option.some.inj ((getElem?_registry hp).symm.trans hd)
    exact hdue

/-- The first run comes too early. The next one asks the collector if it comes when the clock has
reached the interval, and passes by if it comes before. -/
theorem first_report_kiosk :
    let actions : List (Action Cluster) := [.register 0, .collectAll {} (.constant 59.0)]
    let now := kiosk.after Cluster.view actions
    (kiosk.collectors 0).Built ∧ completions Cluster.view 0 kiosk actions = [] ∧
      (now.collectors 0).enabled = true ∧
      now.Attempts Cluster.view 0 {} (.constant 60.0) 0 ∧
      now.registry.PassesBy (.constant 59.5) 0 := by
  intro actions now
  have hnever : completions Cluster.view 0 kiosk actions = [] := by with_unfolding_all rfl
  have henabled : (now.collectors 0).enabled = true := by with_unfolding_all rfl
  have hregistered : now.registered.idxOf? 0 = some 0 := by with_unfolding_all rfl
  have hinterval : (now.collectors 0).interval = 60.0 := by with_unfolding_all rfl
  obtain ⟨hnext, -⟩ := first_report (built_kiosk 0) hnever henabled
  refine ⟨built_kiosk 0, hnever, henabled, ?_, ?_⟩
  · refine (hnext {} (.constant 60.0) 0 hregistered).1 ?_ fun n _ => Nat.zero_le n
    rw [hinterval]
    decide +kernel
  · refine ((hnext {} (.constant 59.5) 0 hregistered).2 ?_).1
    rw [hinterval]
    decide +kernel

/-- A collector of maps with an interval of some three weeks. -/
def archive : Roster where
  collectors _ := .ofSettings "map_info" { collectionInterval := 2000000.0 }

theorem built_archive (i : Nat) : (archive.collectors i).Built :=
  ⟨"map_info", { collectionInterval := 2000000.0 },
    ⟨by decide +kernel, by decide, by decide, by decide⟩, rfl⟩

/-- The collector is new, registered and enabled, and asked it would report, but a run at an earlier
reading than its interval does without it. -/
theorem first_report_withheld :
    let now := archive.after Cluster.view [.register 0]
    (archive.collectors 0).Built ∧ completions Cluster.view 0 archive [.register 0] = [] ∧
      now.registered.idxOf? 0 = some 0 ∧ (now.collectors 0).enabled = true ∧
      (∃ report, ((now.collectors 0).report.run Cluster.view {}).1.result = .ok report ∧
        report.length = 13) ∧
      ((Registry.collectAll (.constant 1000000.0) now.registry).run Cluster.view {}).1.result =
        .ok (.ok [], now.registry) ∧
      ¬ now.Attempts Cluster.view 0 {} (.constant 1000000.0) 0 := by
  intro now
  have hregistered : now.registered.idxOf? 0 = some 0 := by with_unfolding_all rfl
  have hreport : ∃ report, ((now.collectors 0).report.run Cluster.view {}).1.result = .ok report ∧
      report.length = 13 := by
    have hlength : (((now.collectors 0).report.run Cluster.view {}).1.result.toOption.map
        List.length) = some 13 := by decide +kernel
    obtain ⟨report, hreport, hcount⟩ := Option.map_eq_some_iff.mp hlength
    exact ⟨report, eq_ok_of_toOption hreport, hcount⟩
  have hearly : (now.collectors 0).isDue
      ((Registry.Readings.constant 1000000.0).due 0) = false := by
    decide +kernel
  have hnone : now.completion? Cluster.view 0
      (.collectAll ({} : Cluster) (.constant 1000000.0)) = none :=
    completion?_collectAll_eq_none Cluster.view now 0 hregistered (.inl hearly)
  have hresult : ((Registry.collectAll (.constant 1000000.0) now.registry).run Cluster.view
      {}).1.result = .ok (.ok [], now.registry) := by
    have hregistry : now.registry = ⟨[now.collectors 0]⟩ := by with_unfolding_all rfl
    rw [hregistry, Registry.collectAll, Registry.collectFrom,
      if_neg (Bool.not_eq_true _ ▸ hearly)]
    rfl
  refine ⟨built_archive 0, by with_unfolding_all rfl, hregistered, by with_unfolding_all rfl,
    hreport, hresult, ?_⟩
  rintro ⟨before, after, -, ⟨report, -, hdone⟩ | ⟨report, keys, registry, -, hclash⟩ |
    ⟨e, hfails, -⟩⟩
  · rw [hnone] at hdone
    cases hdone
  · rw [hresult] at hclash
    cases hclash
  · obtain ⟨report, hok, -⟩ := hreport
    have hasked : Registry.asked Cluster.view (.constant 1000000.0) 0
        (now.registry.collectors.take 0) {} = {} := rfl
    rw [hasked, hok] at hfails
    cases hfails

end Roster

end MapMetrics
