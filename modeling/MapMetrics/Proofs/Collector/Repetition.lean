import MapMetrics.Cluster.View
import MapMetrics.Proofs.Collector.Clock
import MapMetrics.Proofs.Collector.Merging

/-!
# Runs after a clash

A run that ends with a clash has stamped the collectors whose reports it had merged, and the merged
reports are gone. While the clock stands still these collectors are not due, so that the next run
asks again only for what is offered from the clash on.
-/

namespace MapMetrics.Registry

variable {σ : Type}

/-! ## Stamps that change nothing -/

private theorem eq_iff_collectors {r : Registry} {cs : List Collector} :
    (⟨cs⟩ : Registry) = r ↔ cs = r.collectors := by
  cases r
  rw [Registry.mk.injEq]

private theorem stamp_eq_iff (c : Collector) (time : Float) :
    { c with last := time } = c ↔ c.last = time := by
  constructor
  · intro h
    exact (congrArg Collector.last h).symm
  · rintro rfl
    rfl

/-- Stamps leave the collectors as they are when every merged report had been stamped so before. -/
theorem stamped_eq_iff {readings : Readings} {position : Nat} {cs : List Collector}
    {offered : List (Option Report)} :
    stamped readings position cs offered = cs ↔
      ∀ i b report, cs[i]? = some b → offered[i]? = some (some report) →
        b.last = readings.merged (position + i) := by
  constructor
  · intro h i b report hb hr
    have hi := congrArg (fun l => l[i]?) h
    simp only [getElem?_stamped, hb, hr, Option.map_some, Option.some.injEq] at hi
    exact (stamp_eq_iff b _).mp hi
  · intro h
    refine List.ext_getElem? fun i => ?_
    rw [getElem?_stamped]
    cases hb : cs[i]? with
    | none => rfl
    | some b =>
      cases hr : offered[i]?.join with
      | none => rfl
      | some report =>
        have hlast := h i b report hb (Option.join_eq_some_iff.mp hr)
        exact congrArg some ((stamp_eq_iff b _).mpr hlast)

/-! ## Offers from fixed answers -/

/-- Against fixed answers and a standing clock, no offer depends on another one. -/
theorem offers_of_gives {view : View σ} {s : σ} {a : Answers} (h : view.Gives s a) (now : Float)
    (position : Nat) (cs : List Collector) :
    offers view (.constant now) position cs s = cs.map fun c => (c.offer view now s).1 := by
  have hstate (c : Collector) : (c.offer view now s).2 = s := by
    rw [Collector.offer, Query.evaluate_of_gives h]
    split <;> rfl
  induction cs generalizing position with
  | nil => rfl
  | cons c rest ih =>
    rw [offers, List.map_cons]
    change (c.offer view now s).1 :: offers view _ _ rest (c.offer view now s).2 = _
    rw [hstate, ih]

/-- A collector that has been stamped offers nothing at the same reading. -/
theorem offer_stamped {c : Collector} (h : ¬ c.interval ≤ 0.0) (view : View σ) (now : Float)
    (s : σ) : (Collector.offer view now { c with last := now } s).1 = none := by
  rw [Collector.offer, Collector.isDue_stamped h]
  rfl

/-- At the same reading those who have been stamped offer nothing, and the others what they offered
before. -/
theorem offers_stamped {view : View σ} {s : σ} {a : Answers} (h : view.Gives s a) {now : Float}
    {cs : List Collector} (hpos : ∀ c ∈ cs, ¬ c.interval ≤ 0.0) {n : Nat} (hn : n ≤ cs.length) :
    let offered := offers view (.constant now) 0 cs s
    offers view (.constant now) 0 (stamped (.constant now) 0 cs (offered.take n)) s =
      List.replicate n none ++ offered.drop n := by
  intro offered
  have hoffered : offered = cs.map fun c => (c.offer view now s).1 := offers_of_gives h now 0 cs
  rw [offers_of_gives h]
  refine List.ext_getElem? fun i => ?_
  rw [List.getElem?_map, getElem?_stamped, hoffered]
  by_cases hi : i < n
  · have hc : cs[i]? = some cs[i] := List.getElem?_eq_getElem (by omega)
    rw [List.getElem?_take_of_lt hi, List.getElem?_append_left (by simpa using hi),
      List.getElem?_replicate, if_pos hi, List.getElem?_map, hc]
    simp only [Option.map_some, Option.join_some, Option.some.injEq]
    by_cases ho : (cs[i].offer view now s).1.isSome = true
    · rw [if_pos ho]
      exact offer_stamped (hpos _ (List.getElem_mem (by omega))) view now s
    · rw [if_neg ho]
      exact Option.not_isSome_iff_eq_none.mp ho
  · rw [List.getElem?_eq_none (by simp; omega), List.getElem?_append_right (by simp; omega),
      List.length_replicate, List.getElem?_drop, List.getElem?_map,
      show n + (i - n) = i from by omega]
    cases cs[i]? <;> rfl

/-! ## Clashes -/

/-- Whatever comes of a run, the collectors are those that the offers before a clash have
stamped. -/
theorem result_collectAll (view : View σ) (s : σ) (readings : Readings) (r : Registry) :
    let offered := offers view readings 0 r.collectors s
    (clash? [] offered = none ∧ ((collectAll readings r).run view s).1.result =
        .ok (.ok (gathered offered), ⟨stamped readings 0 r.collectors offered⟩)) ∨
      ∃ n c report, clash? [] offered = some n ∧ r.collectors[n]? = some c ∧
        offered[n]? = some (some report) ∧ ((collectAll readings r).run view s).1.result =
          .ok (.error ⟨duplicateFailure c.name (duplicates (gathered (offered.take n)) report),
            none⟩, ⟨stamped readings 0 r.collectors (offered.take n)⟩) := by
  intro offered
  have hrun : ((collectAll readings r).run view s).1.result =
      ((collectFrom readings 0 [] r.collectors).evaluate view s).1.map fun o =>
        (o.result, ⟨o.collectors⟩) :=
    congrArg Prod.fst (Query.evaluate_bind_pure view _ _ s)
  rw [hrun]
  cases hclash : clash? [] offered with
  | none => exact Or.inl ⟨rfl, by rw [collectFrom_of_apart view readings hclash]; rfl⟩
  | some n =>
    obtain ⟨c, report, hc, hr, hfrom⟩ := collectFrom_of_clash view readings hclash
    exact Or.inr ⟨n, c, report, rfl, hc, hr, by rw [hfrom]; rfl⟩

/-- After a clash, the next run at the same reading merges what is offered from the clash on. It
ends with a clash again exactly when two of those reports have a common key. -/
theorem result_again {view : View σ} {s : σ} {a : Answers} (h : view.Gives s a) {now : Float}
    {r : Registry} (hpos : ∀ c ∈ r.collectors, ¬ c.interval ≤ 0.0) {n : Nat}
    (hn : n ≤ r.collectors.length) :
    let offered := offers view (.constant now) 0 r.collectors s
    ∃ again final,
      ((collectAll (.constant now)
          ⟨stamped (.constant now) 0 r.collectors (offered.take n)⟩).run view s).1.result =
        .ok (again, final) ∧
      ((∃ merged, again = .ok merged) ↔ (offered.drop n).reduceOption.Pairwise Report.Apart) ∧
      ∀ merged, again = .ok merged → merged = gathered (offered.drop n) := by
  intro offered
  have hoffers : offers view (.constant now) 0
      (stamped (.constant now) 0 r.collectors (offered.take n)) s =
        List.replicate n none ++ offered.drop n := offers_stamped h hpos hn
  have hclash : clash? [] (List.replicate n none ++ offered.drop n) = none ↔
      (offered.drop n).reduceOption.Pairwise Report.Apart := by
    rw [clash?_replicate, Option.map_eq_none_iff, clash?_eq_none_iff]
    exact and_iff_left fun report _ => List.disjoint_nil_left _
  rcases result_collectAll view s (.constant now)
      ⟨stamped (.constant now) 0 r.collectors (offered.take n)⟩ with
    ⟨hnone, hrun⟩ | ⟨m, c, report, hsome, -, -, hrun⟩
  · rw [hoffers] at hnone hrun
    refine ⟨_, _, hrun, iff_of_true ⟨_, rfl⟩ (hclash.mp hnone), fun merged hm => ?_⟩
    rw [← Except.ok.inj hm, gathered_replicate]
  · rw [hoffers] at hsome
    refine ⟨_, _, hrun, iff_of_false ?_ fun hp => ?_, fun merged hm => ?_⟩
    · rintro ⟨merged, hm⟩
      cases hm
    · rw [hclash.mpr hp] at hsome
      cases hsome
    · cases hm

/-- A run that ends with a clash keeps the stamps of the reports before it, at least one of which
has a key of the report that clashes. It leaves the registry as it was exactly when each of these
stamps had been there before. At a standing clock with intervals above zero, none of these
collectors is due any more, and the next run merges what is offered from the clash on: it ends with
a clash again exactly when two of those reports have a common key. -/
theorem collectAll_clash {view : View σ} {s : σ} {readings : Readings} {r after : Registry}
    {raised : Raised}
    (h : ((collectAll readings r).run view s).1.result = .ok (.error raised, after)) :
    let offered := offers view readings 0 r.collectors s
    ∃ n c report, r.collectors[n]? = some c ∧ offered[n]? = some (some report) ∧
      raised = ⟨duplicateFailure c.name (duplicates (gathered (offered.take n)) report), none⟩ ∧
      after = ⟨stamped readings 0 r.collectors (offered.take n)⟩ ∧
      (∃ i < n, ∃ lost, offered[i]? = some (some lost) ∧ ¬ lost.Apart report) ∧
      (after = r ↔ ∀ i < n, ∀ b lost, r.collectors[i]? = some b →
        offered[i]? = some (some lost) → b.last = readings.merged i) ∧
      ∀ now, readings = .constant now → (∀ b ∈ r.collectors, ¬ b.interval ≤ 0.0) →
        (∀ i < n, ∀ lost, offered[i]? = some (some lost) →
          ∃ b, after.collectors[i]? = some b ∧ b.isDue now = false) ∧
        ∀ a, view.Gives s a → ∃ again final,
          ((collectAll readings after).run view s).1.result = .ok (again, final) ∧
          ((∃ merged, again = .ok merged) ↔
            (offered.drop n).reduceOption.Pairwise Report.Apart) ∧
          ∀ merged, again = .ok merged → merged = gathered (offered.drop n) := by
  intro offered
  rcases result_collectAll view s readings r with ⟨-, hrun⟩ | ⟨n, c, report, hclash, hc, hr, hrun⟩
  · rw [hrun] at h
    cases h
  · rw [hrun] at h
    cases h
    have hn : n < r.collectors.length := (List.getElem?_eq_some_iff.mp hc).1
    refine ⟨n, c, report, hc, hr, rfl, rfl, lost_of_clash? hclash hr, ?_, ?_⟩
    · rw [eq_iff_collectors, stamped_eq_iff]
      simp only [List.getElem?_take, Option.ite_none_right_eq_some, Nat.zero_add]
      exact ⟨fun hlast i hi b lost hb hl => hlast i b lost hb ⟨hi, hl⟩,
        fun hlast i b lost hb hl => hlast i hl.1 b lost hb hl.2⟩
    · rintro now rfl hpos
      refine ⟨?_, ?_⟩
      · intro i hi lost hl
        have hb : r.collectors[i]? = some r.collectors[i] := List.getElem?_eq_getElem (by omega)
        refine ⟨_, by rw [getElem?_stamped, hb, List.getElem?_take_of_lt hi, hl]; rfl, ?_⟩
        exact Collector.isDue_stamped (hpos _ (List.mem_of_getElem? hb)) now
      · intro a hgives
        exact result_again hgives hpos (Nat.le_of_lt hn)

/-- Two collectors whose reports have a common key. -/
def rivals : Registry :=
  ⟨[{ name := "first", source := .fixed [("count", "1")] },
    { name := "second", source := .fixed [("count", "2")] }]⟩

/-- The rivals when only the first one has been stamped. -/
def rivalsAfter : Registry :=
  ⟨[{ name := "first", last := 1000000.0, source := .fixed [("count", "1")] },
    { name := "second", source := .fixed [("count", "2")] }]⟩

private theorem result_rivals :
    ((collectAll (.constant 1000000.0) rivals).run Cluster.view {}).1.result =
      .ok (.error ⟨duplicateFailure "second" ["count"], none⟩, rivalsAfter) := by
  with_unfolding_all rfl

theorem collectAll_clash_rivals :
    (∀ b ∈ rivals.collectors, ¬ b.interval ≤ 0.0) ∧
      ((collectAll (.constant 1000000.0) rivals).run Cluster.view {}).1.result =
        .ok (.error ⟨duplicateFailure "second" ["count"], none⟩, rivalsAfter) ∧
      ∃ (i : Nat) (b : Collector),
        rivalsAfter.collectors[i]? = some b ∧ b.isDue 1000000.0 = false := by
  have hpos : ∀ b ∈ rivals.collectors, ¬ b.interval ≤ 0.0 := by decide
  obtain ⟨n, c, report, -, -, -, -, ⟨i, hi, lost, hl, -⟩, -, hstill⟩ :=
    collectAll_clash result_rivals
  obtain ⟨b, hb, hdue⟩ := (hstill 1000000.0 rfl hpos).1 i hi lost hl
  exact ⟨hpos, result_rivals, i, b, hb, hdue⟩

/-- The second run at the same reading does not find the clash again: it returns a report without
the lost one. -/
theorem collectAll_rivals_twice :
    ((collectAll (.constant 1000000.0) rivals).run Cluster.view {}).1.result =
        .ok (.error ⟨duplicateFailure "second" ["count"], none⟩, rivalsAfter) ∧
      rivals.collectors.map (·.last) = [0.0, 0.0] ∧
      rivalsAfter.collectors.map (·.last) = [1000000.0, 0.0] ∧
      ∃ final, ((collectAll (.constant 1000000.0) rivalsAfter).run Cluster.view {}).1.result =
        .ok (.ok [("count", "2")], final) :=
  ⟨result_rivals, rfl, rfl, _, by with_unfolding_all rfl⟩

end MapMetrics.Registry
