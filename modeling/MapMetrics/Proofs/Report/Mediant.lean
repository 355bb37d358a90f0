import MapMetrics.Cluster.View
import MapMetrics.Proofs.Query.Evaluation
import MapMetrics.Proofs.Report.Latency
import MapMetrics.Proofs.Report.Totals
import Mathlib.Algebra.BigOperators.Ring.List
import Mathlib.Algebra.Order.BigOperators.Group.List
import Mathlib.Algebra.Order.Ring.Nat

/-!
# An average between those of the maps

An average over several maps is no mean of their own averages: it is the quotient of the sums, so
that maps with many operations count for more. All the same it lies between the least and the
greatest of the maps' own averages, although every quotient loses its fraction. A map without
operations has no average of its own. If it has a latency all the same, that can raise the average
above all others, but it never lowers it.
-/

namespace MapMetrics

variable {σ : Type} {view : View σ}

/-! ## Counters that are fetched one after another -/

/-- Requests for the counters of maps, one after another, are answered with these counters, from a
state to a later one. -/
inductive View.Fetches (view : View σ) : σ → List String → List MapStats → σ → Prop
  /-- Nothing is asked for. -/
  | nil (s : σ) : Fetches view s [] [] s
  /-- The first map is asked for, and then the others. -/
  | cons {s next after : σ} {name : String} {x : MapStats} {names : List String}
      {stats : List MapStats} : view.stats name s = (.ok x, next) →
      Fetches view next names stats after → Fetches view s (name :: names) (x :: stats) after

/-- One more map can be asked for at the end. -/
theorem View.Fetches.concat {s after last : σ} {names : List String} {stats : List MapStats}
    (h : view.Fetches s names stats after) {name : String} {x : MapStats}
    (hlast : view.stats name after = (.ok x, last)) :
    view.Fetches s (names ++ [name]) (stats ++ [x]) last := by
  induction h with
  | nil s => exact .cons hlast (.nil last)
  | cons hfirst _ ih => exact .cons hfirst (ih hlast)

namespace LatencyMetric

variable {m : LatencyMetric} {isolate : Bool} {configs : List MapConfig} {stats : List MapStats}
  {s after : σ}

/-- An aggregation adds up the counters that are fetched for the selected maps. -/
theorem evaluate_totals_of_fetches (t : LatencyTotals)
    (h : view.Fetches s ((configs.filter m.selects).map (·.name)) stats after) :
    (m.totals isolate t configs).evaluate view s =
      (.ok (t.addCounters (m.sumOver stats).total (m.sumOver stats).count), after) := by
  induction configs generalizing t s stats with
  | nil =>
    cases h
    rfl
  | cons c rest ih =>
    by_cases hs : m.selects c = true
    · rw [List.filter_cons_of_pos hs, List.map_cons] at h
      cases h with
      | @cons _ next _ _ x _ others hfirst hrest =>
        have hasked : (Query.fetchStats c.name).evaluate view s = (.ok (.ok x), next) := by
          rw [Query.fetchStats, Query.evaluate, Query.run, hfirst]
          rfl
        rw [totals_cons, if_pos hs, Query.evaluate_bind]
        simp only [hasked, ih _ hrest]
        simp [sumOver, LatencyTotals.addCounters, Nat.add_assoc]
    · rw [List.filter_cons_of_neg hs] at h
      rw [totals_cons, if_neg hs, ih t h]

/-- An average is that of the counters that are fetched. -/
theorem evaluate_average_of_fetches
    (h : view.Fetches s ((configs.filter m.selects).map (·.name)) stats after) :
    (m.average isolate configs).evaluate view s = (.ok (m.sumOver stats).average, after) := by
  rw [average, Query.evaluate_bind_pure, evaluate_totals_of_fetches {} h]
  simp [LatencyTotals.addCounters, Except.map]

/-! ## Sums and their quotient -/

/-- The averages of those maps that have one of their own. -/
def ownAverages (m : LatencyMetric) (stats : List MapStats) : List Nat :=
  (stats.filter fun x => 0 < m.countOf x).map fun x => m.latencyOf x / m.countOf x

theorem mem_ownAverages_iff {q : Nat} : q ∈ m.ownAverages stats ↔
    ∃ x ∈ stats, 0 < m.countOf x ∧ m.latencyOf x / m.countOf x = q := by
  simp only [ownAverages, List.mem_map, List.mem_filter, decide_eq_true_iff, and_assoc]

/-- With an operation, some map has an average of its own. -/
theorem ownAverages_ne_nil (h : 0 < (m.sumOver stats).count) : m.ownAverages stats ≠ [] := by
  intro hnil
  have hzero : ∀ n ∈ stats.map m.countOf, n = 0 := by
    intro n hn
    obtain ⟨x, hx, rfl⟩ := List.mem_map.mp hn
    by_contra hne
    have hmem := mem_ownAverages_iff.mpr ⟨x, hx, Nat.pos_of_ne_zero hne, rfl⟩
    rw [hnil] at hmem
    cases hmem
  exact h.ne' (List.sum_eq_zero hzero)

/-- What no map's own average goes below, the average does not. -/
theorem le_average_sumOver (hsome : 0 < (m.sumOver stats).count) {q : Nat}
    (h : ∀ own ∈ m.ownAverages stats, q ≤ own) : (q : Int) ≤ (m.sumOver stats).average := by
  have heach (x : MapStats) (hx : x ∈ stats) : q * m.countOf x ≤ m.latencyOf x := by
    rcases Nat.eq_zero_or_pos (m.countOf x) with hzero | hpos
    · rw [hzero, Nat.mul_zero]
      exact Nat.zero_le _
    · exact (Nat.le_div_iff_mul_le hpos).mp (h _ (mem_ownAverages_iff.mpr ⟨x, hx, hpos, rfl⟩))
  rw [LatencyTotals.le_average_iff hsome]
  have hsum := List.sum_le_sum heach
  rw [List.sum_map_mul_left] at hsum
  exact_mod_cast hsum

/-- What no map's own average goes above, the average does not either, when no map has a latency
without operations. -/
theorem average_sumOver_le (hsome : 0 < (m.sumOver stats).count)
    (hidle : ∀ x ∈ stats, m.countOf x = 0 → m.latencyOf x = 0) {q : Nat}
    (h : ∀ own ∈ m.ownAverages stats, own ≤ q) : (m.sumOver stats).average ≤ q := by
  have hbusy (x : MapStats) (hx : x ∈ stats) (hpos : 0 < m.countOf x) :
      m.latencyOf x < (q + 1) * m.countOf x :=
    (Nat.div_lt_iff_lt_mul hpos).mp
      (Nat.lt_succ_of_le (h _ (mem_ownAverages_iff.mpr ⟨x, hx, hpos, rfl⟩)))
  have heach (x : MapStats) (hx : x ∈ stats) : m.latencyOf x ≤ (q + 1) * m.countOf x := by
    rcases Nat.eq_zero_or_pos (m.countOf x) with hzero | hpos
    · rw [hidle x hx hzero]
      exact Nat.zero_le _
    · exact (hbusy x hx hpos).le
  -- one map has operations, and its latency is what makes the sums differ
  obtain ⟨own, hown⟩ := List.exists_mem_of_ne_nil _ (ownAverages_ne_nil hsome)
  obtain ⟨x, hx, hpos, -⟩ := mem_ownAverages_iff.mp hown
  have hsum := List.sum_lt_sum _ _ heach ⟨x, hx, hbusy x hx hpos⟩
  rw [List.sum_map_mul_left] at hsum
  refine Int.lt_add_one_iff.mp ((LatencyTotals.average_lt_iff hsome).mpr ?_)
  exact_mod_cast hsum

end LatencyMetric

/-- Counters with an average that is not below that of totals do not lower it. -/
theorem LatencyTotals.average_le_addCounters {t : LatencyTotals} {total count : Nat}
    (hpos : 0 < count) (h : t.average ≤ (total / count : Nat)) :
    t.average ≤ (t.addCounters total count).average := by
  have hgrown : 0 < (t.addCounters total count).count := Nat.add_pos_right _ hpos
  rcases Nat.eq_zero_or_pos t.count with hzero | hsome
  · rw [average_eq_noData_iff.mpr hzero]
    exact (by decide : noData ≤ 0).trans (average_nonneg hgrown)
  · have hold : t.average * t.count ≤ t.total := (le_average_iff hsome).mp le_rfl
    have hnew : t.average * count ≤ total := by
      rw [Int.natCast_div] at h
      exact (Int.le_ediv_iff_mul_le (Int.natCast_pos.mpr hpos)).mp h
    rw [le_average_iff hgrown]
    simp only [addCounters, Int.natCast_add, Int.mul_add]
    exact Int.add_le_add hold hnew

namespace LatencyMetric

/-- An average over maps whose counters can all be fetched, whoever answers. With an operation among
them, it is at least the least of the averages that maps have of their own, and, if no map has a
latency without operations, at most the greatest. One more map with operations, whose own average is
not below it, does not lower it. -/
theorem average_between (m : LatencyMetric) (isolate : Bool) {configs : List MapConfig} {s after : σ}
    {stats : List MapStats}
    (hfetched : view.Fetches s ((configs.filter m.selects).map (·.name)) stats after) :
    ∃ n : Int, (m.average isolate configs).evaluate view s = (.ok n, after) ∧
      (0 < (stats.map m.countOf).sum →
        (∃ least, (m.ownAverages stats).min? = some least ∧ least ≤ n) ∧
        ((∀ x ∈ stats, m.countOf x = 0 → m.latencyOf x = 0) →
          ∃ greatest, (m.ownAverages stats).max? = some greatest ∧ n ≤ greatest)) ∧
      ∀ c x last, m.selects c = true → view.stats c.name after = (.ok x, last) →
        0 < m.countOf x → n ≤ (m.latencyOf x / m.countOf x : Nat) →
        ∃ larger, (m.average isolate (configs ++ [c])).evaluate view s = (.ok larger, last) ∧
          n ≤ larger := by
  refine ⟨_, evaluate_average_of_fetches hfetched, fun hsome => ⟨?_, fun hidle => ?_⟩,
    fun c x last hselected hlast hpos hown => ?_⟩
  · obtain ⟨least, hleast⟩ := Option.isSome_iff_exists.mp
      (List.isSome_min?_of_ne_nil (ownAverages_ne_nil hsome))
    exact ⟨least, hleast, le_average_sumOver hsome (List.min?_eq_some_iff.mp hleast).2⟩
  · obtain ⟨greatest, hgreatest⟩ := Option.isSome_iff_exists.mp
      (List.isSome_max?_of_ne_nil (ownAverages_ne_nil hsome))
    exact ⟨greatest, hgreatest,
      average_sumOver_le hsome hidle (List.max?_eq_some_iff.mp hgreatest).2⟩
  · have hselect : (configs ++ [c]).filter m.selects = configs.filter m.selects ++ [c] := by
      rw [List.filter_append, List.filter_cons_of_pos hselected, List.filter_nil]
    have hall : view.Fetches s (((configs ++ [c]).filter m.selects).map (·.name)) (stats ++ [x])
        last := by
      rw [hselect, List.map_append]
      exact hfetched.concat hlast
    refine ⟨_, evaluate_average_of_fetches hall, ?_⟩
    have hsums : m.sumOver (stats ++ [x]) =
        (m.sumOver stats).addCounters (m.latencyOf x) (m.countOf x) := by
      simp [sumOver, LatencyTotals.addCounters]
    rw [hsums]
    exact LatencyTotals.average_le_addCounters hpos hown

/-- The average of writes over the maps with a store behind them. -/
def storedWrites : LatencyMetric := catalog[0]

/-- A latency without operations lifts an average above those of all maps. -/
example : (storedWrites.sumOver [{ totalPutLatency := 10, putOperationCount := 1 },
    { totalPutLatency := 90 }]).average = 100 := by decide

/-- Four maps, three of them with a store and one of these without operations. -/
def quays : List MapConfig :=
  [{ name := "orders", mapStore := { enabled := true } }, { name := "sessions" },
    { name := "users", mapStore := { enabled := true } },
    { name := "audit", mapStore := { enabled := true } }]

/-- The counters of the three maps with a store. -/
def quayStats : List MapStats :=
  [{ totalPutLatency := 100, putOperationCount := 10 },
    { totalPutLatency := 7, putOperationCount := 2 }, {}]

/-- One more map. -/
def lastQuay : MapConfig := { name := "carts", mapStore := { enabled := true } }

/-- Its counters. -/
def lastQuayStats : MapStats := { totalPutLatency := 17, putOperationCount := 2 }

/-- A cluster with the maps that have a store. -/
def harbour : Cluster :=
  ((quays.filter storedWrites.selects).zip quayStats ++ [(lastQuay, lastQuayStats)]).foldl
    (fun c e => c.addMap e.1 e.2) {}

/-- The average 8 lies between 3 and 10, and one more map with the average 8 does not lower it. -/
theorem average_between_quays :
    Cluster.view.Fetches harbour ((quays.filter storedWrites.selects).map (·.name)) quayStats
        harbour ∧
      (storedWrites.average true quays).evaluate Cluster.view harbour = (.ok 8, harbour) ∧
      (∃ least, (storedWrites.ownAverages quayStats).min? = some least ∧ least ≤ (8 : Int)) ∧
      (∃ greatest, (storedWrites.ownAverages quayStats).max? = some greatest ∧
        (8 : Int) ≤ greatest) ∧
      ∃ larger, (storedWrites.average true (quays ++ [lastQuay])).evaluate Cluster.view harbour =
        (.ok larger, harbour) ∧ 8 ≤ larger := by
  have hfetched : Cluster.view.Fetches harbour
      ((quays.filter storedWrites.selects).map (·.name)) quayStats harbour :=
    .cons rfl (.cons rfl (.cons rfl (.nil harbour)))
  obtain ⟨n, hn, hbounds, hmore⟩ := average_between storedWrites true hfetched
  obtain rfl : n = 8 := by
    have height : (storedWrites.average true quays).evaluate Cluster.view harbour =
        (.ok 8, harbour) := rfl
    exact Except.ok.inj (congrArg Prod.fst (hn.symm.trans height))
  obtain ⟨hleast, hgreatest⟩ := hbounds (by decide)
  exact ⟨hfetched, hn, hleast, hgreatest (by decide),
    hmore lastQuay lastQuayStats harbour rfl rfl (by decide) (by decide)⟩

end LatencyMetric

end MapMetrics
