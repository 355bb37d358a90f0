import MapMetrics.Proofs.Collector.Union

/-!
# Collectors one by one in a run over all

Of a run over the collectors, this is what concerns a single one. Its report is merged when it
offers one and no report up to its own has a key of those before. Then the clock has been read for
it, first when it was asked and again after its report was merged. A collector that is due and
reached is always asked for its report, and the run reports when it fails.
-/

namespace MapMetrics.Registry

variable {σ : Type}

/-- The report that is offered at a position is merged: neither it nor one before it clashes. -/
def merges (merged : Report) (offered : List (Option Report)) (p : Nat) : Bool :=
  (offered[p]?.join).isSome && (clash? merged offered).all fun n => decide (p < n)

/-- The clock readings of a run, in order: one for each enabled collector that is reached, and one
after each report that is merged. -/
def ticksFrom (readings : Readings) (position : Nat) (merged : Report) :
    List Collector → List (Option Report) → List Float
  | c :: rest, none :: others =>
    (if c.enabled then [readings.due position] else []) ++
      ticksFrom readings (position + 1) merged rest others
  | _ :: rest, some report :: others =>
    readings.due position ::
      if (duplicates merged report).isEmpty then
        readings.merged position :: ticksFrom readings (position + 1) (merged ++ report) rest others
      else []
  | _, _ => []

/-- What is merged has been offered. -/
theorem exists_report_of_merges {merged : Report} {offered : List (Option Report)} {p : Nat}
    (h : merges merged offered p = true) : ∃ report, offered[p]? = some (some report) := by
  rw [merges, Bool.and_eq_true] at h
  obtain ⟨report, hr⟩ := Option.isSome_iff_exists.mp h.1
  exact ⟨report, Option.join_eq_some_iff.mp hr⟩

/-- The report of the first collector is merged when it has no key that is there already. -/
private theorem merges_some_zero {merged report : Report} {others : List (Option Report)} :
    merges merged (some report :: others) 0 = (duplicates merged report).isEmpty := by
  rw [merges, clash?]
  by_cases hd : (duplicates merged report).isEmpty = true
  · rw [if_pos hd, hd]
    cases clash? (merged ++ report) others <;> rfl
  · rw [if_neg hd, Bool.eq_false_iff.mpr hd]
    rfl

/-- Behind a collector that offers nothing, the others are as without it. -/
private theorem merges_none_succ {merged : Report} {others : List (Option Report)} {p : Nat} :
    merges merged (none :: others) (p + 1) = merges merged others p := by
  rw [merges, merges, clash?]
  cases clash? merged others <;> simp

/-- Behind a report, the others are merged with it. -/
private theorem merges_some_succ {merged report : Report} {others : List (Option Report)}
    {p : Nat} : merges merged (some report :: others) (p + 1) =
      ((duplicates merged report).isEmpty && merges (merged ++ report) others p) := by
  rw [merges, merges, clash?]
  by_cases hd : (duplicates merged report).isEmpty = true
  · rw [if_pos hd, hd]
    cases clash? (merged ++ report) others <;> simp
  · rw [if_neg hd, Bool.eq_false_iff.mpr hd]
    simp

/-- For a report that is merged the clock is read twice. -/
theorem sublist_ticksFrom {readings : Readings} {position : Nat} {merged : Report}
    {cs : List Collector} {offered : List (Option Report)} {p : Nat} (hp : p < cs.length)
    (h : merges merged offered p = true) :
    [readings.due (position + p), readings.merged (position + p)].Sublist
      (ticksFrom readings position merged cs offered) := by
  induction cs generalizing position merged offered p with
  | nil => cases hp
  | cons c rest ih =>
    cases offered with
    | nil => cases h
    | cons offer others =>
      cases p with
      | zero =>
        cases offer with
        | none => cases h
        | some report =>
          rw [merges_some_zero] at h
          rw [ticksFrom, if_pos h]
          exact ((List.nil_sublist _).cons_cons _).cons_cons _
      | succ p =>
        have hp' : p < rest.length := Nat.lt_of_succ_lt_succ hp
        rw [← Nat.add_assoc, Nat.add_right_comm]
        cases offer with
        | none =>
          rw [merges_none_succ] at h
          exact (ih hp' h).trans (List.sublist_append_right _ _)
        | some report =>
          rw [merges_some_succ, Bool.and_eq_true] at h
          rw [ticksFrom, if_pos h.1]
          exact ((ih hp' h.2).cons _).cons _

private theorem stamped_eq_mapIdx (readings : Readings) (cs : List Collector)
    {offered : List (Option Report)} {marked : Nat → Bool}
    (h : ∀ p, (offered[p]?.join).isSome = marked p) :
    stamped readings 0 cs offered = cs.mapIdx fun p c =>
      if marked p then { c with last := readings.merged p } else c := by
  refine List.ext_getElem? fun p => ?_
  rw [getElem?_stamped, List.getElem?_mapIdx, Nat.zero_add, h]

/-- After a run, exactly the collectors of merged reports are stamped. -/
theorem result_collectAll_mapIdx (view : View σ) (s : σ) (readings : Readings) (r : Registry) :
    ∃ outcome, ((collectAll readings r).run view s).1.result =
      .ok (outcome, ⟨r.collectors.mapIdx fun p c =>
        if merges [] (offers view readings 0 r.collectors s) p then
          { c with last := readings.merged p } else c⟩) := by
  rcases result_collectAll view s readings r with
    ⟨hclash, hrun⟩ | ⟨n, c, report, hclash, -, -, hrun⟩
  · refine ⟨_, stamped_eq_mapIdx readings r.collectors (fun p => ?_) ▸ hrun⟩
    rw [merges, hclash, Option.all_none, Bool.and_true]
  · refine ⟨_, stamped_eq_mapIdx readings r.collectors (fun p => ?_) ▸ hrun⟩
    rw [merges, hclash, Option.all_some, List.getElem?_take]
    by_cases hp : p < n
    · rw [if_pos hp, decide_eq_true hp, Bool.and_true]
    · rw [if_neg hp, decide_eq_false hp, Bool.and_false]
      rfl

/-- What is reported when a collector fails. -/
def failureEvent (c : Collector) (r : Raised) : Event :=
  ⟨.error, "Failed to collect metrics from '" ++ c.name ++ "': " ++ r.failure.message⟩

section Events

variable (view : View σ) (readings : Readings) (position : Nat) (merged : Report)
variable (c : Collector) (rest : List Collector) (s : σ)

/-- A collector that is due is asked at once. -/
private theorem events_of_due (hdue : c.isDue (readings.due position) = true) :
    ∃ after, ((collectFrom readings position merged (c :: rest)).run view s).1.events =
        (c.report.run view s).1.events ++ after ∧
      ∀ r, (c.report.run view s).1.result = .error r →
        after.head? = some (failureEvent c r) := by
  rw [collectFrom, if_pos hdue,
    Query.events_bind_of_ok view (Query.evaluate_attempt view c.report s), Query.events_attempt]
  refine ⟨_, rfl, fun r hr => ?_⟩
  simp only [Query.evaluate, hr]
  rfl

/-- What a run reports after the first collector is what the run over the others reports, unless
the report of the first one clashes. -/
private theorem events_behind {offer : Option Report}
    (ho : (c.offer view (readings.due position) s).1 = offer)
    (happly : ∀ report, offer = some report → (duplicates merged report).isEmpty = true) :
    ∃ before, ((collectFrom readings position merged (c :: rest)).run view s).1.events =
      before ++ ((collectFrom readings (position + 1) (merged ++ offer.getD []) rest).run view
        (c.offer view (readings.due position) s).2).1.events := by
  by_cases hdue : c.isDue (readings.due position) = true
  · rw [Collector.offer, if_pos hdue] at ho ⊢
    rw [collectFrom, if_pos hdue,
      Query.events_bind_of_ok view (Query.evaluate_attempt view c.report s)]
    cases hr : (c.report.evaluate view s).1 with
    | error r =>
      rw [hr] at ho
      obtain rfl : none = offer := ho
      refine ⟨(c.report.run view s).1.events ++ [failureEvent c r], ?_⟩
      rw [Query.events_attempt, List.append_assoc, Option.getD_none, List.append_nil]
      refine congrArg ((c.report.run view s).1.events ++ ·) ?_
      exact congrArg (failureEvent c r :: ·) (Query.events_bind_pure view _ _ _)
    | ok report =>
      rw [hr] at ho
      obtain rfl : some report = offer := ho
      refine ⟨(c.report.run view s).1.events ++ [⟨.debug, "Collected " ++
        toString report.length ++ " metrics from '" ++ c.name ++ "'"⟩], ?_⟩
      simp only [happly report rfl, if_true]
      rw [Query.events_attempt, List.append_assoc, Option.getD_some]
      refine congrArg ((c.report.run view s).1.events ++ ·) ?_
      exact congrArg (_ :: ·) (Query.events_bind_pure view _ _ _)
  · rw [Collector.offer, if_neg hdue] at ho ⊢
    obtain rfl : none = offer := ho
    rw [collectFrom, if_neg hdue, Option.getD_none, List.append_nil]
    exact ⟨[], Query.events_bind_pure view _ _ _⟩

end Events

/-- A collector that is due and reached is asked for its report, and the run reports at once when it
fails. -/
theorem collectFrom_asks (view : View σ) (readings : Readings) {position : Nat} {merged : Report}
    {cs : List Collector} {s : σ} {p : Nat} {c : Collector} (hc : cs[p]? = some c)
    (hdue : c.isDue (readings.due (position + p)) = true)
    (hreached : ∀ n, clash? merged (offers view readings position cs s) = some n → p ≤ n) :
    ∃ before after, ((collectFrom readings position merged cs).run view s).1.events =
        before ++ ((c.report.run view (asked view readings position (cs.take p) s)).1.events ++
          after) ∧
      ∀ r, (c.report.run view (asked view readings position (cs.take p) s)).1.result = .error r →
        after.head? = some (failureEvent c r) := by
  induction cs generalizing position merged s p with
  | nil => cases hc
  | cons first rest ih =>
    cases p with
    | zero =>
      obtain rfl := Option.some.inj hc
      obtain ⟨after, hevents, hfails⟩ :=
        events_of_due view readings position merged first rest s hdue
      exact ⟨[], after, hevents, hfails⟩
    | succ p =>
      rw [offers] at hreached
      have happly : ∀ report, (first.offer view (readings.due position) s).1 = some report →
          (duplicates merged report).isEmpty = true := by
        intro report ho
        by_contra hclash
        rw [ho, clash?, if_neg hclash] at hreached
        exact Nat.not_succ_le_zero p (hreached 0 rfl)
      obtain ⟨earlier, hbehind⟩ :=
        events_behind view readings position merged first rest s rfl happly
      rw [← Nat.add_assoc, Nat.add_right_comm] at hdue
      have hrest : ∀ n, clash? (merged ++ (first.offer view (readings.due position) s).1.getD [])
          (offers view readings (position + 1) rest
            (first.offer view (readings.due position) s).2) = some n → p ≤ n := by
        intro n hn
        refine Nat.le_of_succ_le_succ (hreached (n + 1) ?_)
        cases ho : (first.offer view (readings.due position) s).1 with
        | none =>
          rw [ho, Option.getD_none, List.append_nil] at hn
          rw [clash?, hn]
          rfl
        | some report =>
          rw [ho, Option.getD_some] at hn
          rw [clash?, if_pos (happly report ho), hn]
          rfl
      obtain ⟨before, after, hevents, hfails⟩ := ih hc hdue hrest
      exact ⟨earlier ++ before, after, by rw [hbehind, hevents, List.append_assoc]; rfl, hfails⟩

end MapMetrics.Registry
