import MapMetrics.Report.Latency
import Mathlib.Algebra.BigOperators.Group.List.Basic
import Mathlib.Algebra.Order.Ring.Int

/-!
# Totals under any number of calls

A call either adds a sample to both totals or is refused and leaves them as they are. Whatever has
been asked for, in whatever order, the totals are therefore those to start from and the sums of the
samples that were accepted: they never shrink, and only these samples matter, not the order of the
calls. The average is the quotient of the two totals without its fraction, and -1 for want of an
operation.
-/

namespace MapMetrics.LatencyTotals

/-! ## Averages -/

/-- The average is missing exactly when there is no operation. -/
theorem average_eq_noData_iff {t : LatencyTotals} : t.average = noData ↔ t.count = 0 := by
  by_cases hcount : t.count = 0
  · simp [average, hcount]
  · rw [average, if_neg hcount, noData]
    have hquotient := Int.natCast_nonneg (t.total / t.count)
    constructor
    · intro h
      rw [h] at hquotient
      exact absurd hquotient (by decide)
    · exact fun h => absurd h hcount

/-- An average of operations is the quotient of the totals. -/
theorem average_of_pos {t : LatencyTotals} (h : 0 < t.count) :
    t.average = (t.total : Int) / t.count := by
  rw [average, if_neg h.ne', Int.natCast_div]

/-- A number is at most the average when as much for each operation is at most the total. -/
theorem le_average_iff {t : LatencyTotals} (h : 0 < t.count) {q : Int} :
    q ≤ t.average ↔ q * t.count ≤ t.total := by
  rw [average_of_pos h]
  exact Int.le_ediv_iff_mul_le (Int.natCast_pos.mpr h)

/-- A number is above the average when as much for each operation is above the total. -/
theorem average_lt_iff {t : LatencyTotals} (h : 0 < t.count) {q : Int} :
    t.average < q ↔ (t.total : Int) < q * t.count := by
  rw [average_of_pos h]
  exact Int.ediv_lt_iff_lt_mul (Int.natCast_pos.mpr h)

/-- The average is the one number between these bounds. -/
theorem average_eq_iff {t : LatencyTotals} (h : 0 < t.count) {q : Int} :
    t.average = q ↔ q * t.count ≤ t.total ∧ (t.total : Int) < (q + 1) * t.count := by
  rw [← le_average_iff h, ← average_lt_iff h]
  omega

/-- An average of operations is not negative. -/
theorem average_nonneg {t : LatencyTotals} (h : 0 < t.count) : 0 ≤ t.average := by
  rw [le_average_iff h, Int.zero_mul]
  exact Int.natCast_nonneg _

/-! ## One call -/

/-- Totals to start from are accepted as they are, when neither of them is negative. -/
theorem make_eq_ok_iff {total count : Int} {t : LatencyTotals} :
    make total count = .ok t ↔ total = t.total ∧ count = t.count := by
  by_cases hneg : total < 0 ∨ count < 0
  · have hcheck : (decide (total < 0) || decide (count < 0)) = true := by simpa using hneg
    simp only [make, hcheck, if_true, reduceCtorEq, false_iff, not_and]
    omega
  · have hcheck : (decide (total < 0) || decide (count < 0)) = false := by simpa using hneg
    simp only [make, hcheck, Bool.false_eq_true, if_false, Except.ok.injEq]
    constructor
    · rintro rfl
      exact ⟨by dsimp only; omega, by dsimp only; omega⟩
    · rintro ⟨rfl, rfl⟩
      simp only [Int.toNat_natCast]

/-- The totals after a call, whether the sample is accepted or refused. -/
def call (t : LatencyTotals) (sample : Int × Int) : LatencyTotals :=
  match (grow sample.1 sample.2).run t with
  | .ok _ after => after
  | .error _ after => after

/-- An accepted sample is in the totals. -/
theorem call_of_accepts {sample : Int × Int} (h : accepts sample = true) (t : LatencyTotals) :
    t.call sample = ⟨t.total + sample.1.toNat, t.count + sample.2.toNat⟩ := by
  rw [call, grow_of_accepts h]

/-- Another one makes no difference. -/
theorem call_of_not_accepts {sample : Int × Int} (h : accepts sample = false)
    (t : LatencyTotals) : t.call sample = t := by
  rw [call, grow_of_not_accepts h]

/-- A sample with a negative number is not accepted. -/
theorem accepts_eq_false_iff {sample : Int × Int} :
    accepts sample = false ↔ sample.1 < 0 ∨ sample.2 < 0 := by
  simp only [accepts, Bool.and_eq_false_iff, decide_eq_false_iff_not, not_le]

/-- No call lowers a total. -/
theorem le_call (t : LatencyTotals) (sample : Int × Int) :
    t.total ≤ (t.call sample).total ∧ t.count ≤ (t.call sample).count := by
  cases h : accepts sample with
  | true =>
    rw [call_of_accepts h]
    exact ⟨Nat.le_add_right _ _, Nat.le_add_right _ _⟩
  | false =>
    rw [call_of_not_accepts h]
    exact ⟨le_rfl, le_rfl⟩

/-! ## Many calls -/

/-- The totals after calls, one after another. -/
def afterCalls (t : LatencyTotals) (samples : List (Int × Int)) : LatencyTotals :=
  samples.foldl call t

theorem afterCalls_cons (t : LatencyTotals) (sample : Int × Int) (rest : List (Int × Int)) :
    t.afterCalls (sample :: rest) = (t.call sample).afterCalls rest :=
  List.foldl_cons ..

theorem afterCalls_append (t : LatencyTotals) (samples further : List (Int × Int)) :
    t.afterCalls (samples ++ further) = (t.afterCalls samples).afterCalls further :=
  List.foldl_append

/-- The totals are those to start from and the sums of the accepted samples. -/
theorem afterCalls_eq (t : LatencyTotals) (samples : List (Int × Int)) :
    ((t.afterCalls samples).total : Int) = t.total + ((samples.filter accepts).map (·.1)).sum ∧
      ((t.afterCalls samples).count : Int) =
        t.count + ((samples.filter accepts).map (·.2)).sum := by
  induction samples generalizing t with
  | nil => simp [afterCalls]
  | cons sample rest ih =>
    obtain ⟨htotal, hcount⟩ := ih (t.call sample)
    rw [afterCalls_cons, htotal, hcount]
    cases h : accepts sample with
    | true =>
      have hsample : 0 ≤ sample.1 ∧ 0 ≤ sample.2 := by simpa [accepts] using h
      rw [call_of_accepts h, List.filter_cons_of_pos h, List.map_cons, List.sum_cons, List.map_cons,
        List.sum_cons]
      push_cast
      omega
    | false =>
      rw [call_of_not_accepts h, List.filter_cons_of_neg (by simp [h])]
      exact ⟨rfl, rfl⟩

/-- No further calls lower a total. -/
theorem le_afterCalls (t : LatencyTotals) (samples : List (Int × Int)) :
    t.total ≤ (t.afterCalls samples).total ∧ t.count ≤ (t.afterCalls samples).count := by
  induction samples generalizing t with
  | nil => exact ⟨le_rfl, le_rfl⟩
  | cons sample rest ih =>
    obtain ⟨htotal, hcount⟩ := le_call t sample
    obtain ⟨htotals, hcounts⟩ := ih (t.call sample)
    rw [afterCalls_cons]
    exact ⟨htotal.trans htotals, hcount.trans hcounts⟩

/-- The order of the calls does not matter. -/
theorem afterCalls_of_perm (t : LatencyTotals) {samples others : List (Int × Int)}
    (h : others.Perm samples) : t.afterCalls others = t.afterCalls samples := by
  obtain ⟨htotal, hcount⟩ := afterCalls_eq t samples
  obtain ⟨htotal', hcount'⟩ := afterCalls_eq t others
  have haccepted := h.filter accepts
  rw [(haccepted.map _).sum_eq, ← htotal] at htotal'
  rw [(haccepted.map _).sum_eq, ← hcount] at hcount'
  exact LatencyTotals.mk.injEq .. ▸ ⟨Int.ofNat.inj htotal', Int.ofNat.inj hcount'⟩

/-- Accepted totals and any calls after that. The totals are those to start from and the sums of
exactly the samples that are accepted, and no total is ever lowered. A sample is refused with an
error exactly when one of its numbers is negative, and then both totals are still what they were;
another one is added to both. The order of the calls does not matter. The average is -1 exactly when
there is no operation. Otherwise it is the one number, not negative, with which the operations times
it are at most the total, and times its successor more than the total. -/
theorem afterCalls_sums {total count : Int} {t : LatencyTotals}
    (hmade : make total count = .ok t) (samples : List (Int × Int)) :
    let now := t.afterCalls samples
    (now.total : Int) = total + ((samples.filter accepts).map (·.1)).sum ∧
    (now.count : Int) = count + ((samples.filter accepts).map (·.2)).sum ∧
    (∀ further, now.total ≤ (t.afterCalls (samples ++ further)).total ∧
      now.count ≤ (t.afterCalls (samples ++ further)).count) ∧
    (∀ sample : Int × Int,
      (sample.1 < 0 ∨ sample.2 < 0 → (grow sample.1 sample.2).run now =
          .error (.sample sample.1 sample.2) now) ∧
      (¬ (sample.1 < 0 ∨ sample.2 < 0) → ∃ grown, (grow sample.1 sample.2).run now = .ok () grown ∧
        (grown.total : Int) = now.total + sample.1 ∧ (grown.count : Int) = now.count + sample.2)) ∧
    (∀ others, others.Perm samples → t.afterCalls others = now) ∧
    (now.average = -1 ↔ now.count = 0) ∧
    (now.count ≠ 0 → ∀ q : Int, now.average = q ↔
      0 ≤ q ∧ q * now.count ≤ now.total ∧ (now.total : Int) < (q + 1) * now.count) := by
  intro now
  obtain ⟨rfl, rfl⟩ := make_eq_ok_iff.mp hmade
  obtain ⟨htotal, hcount⟩ := afterCalls_eq t samples
  refine ⟨htotal, hcount, fun further => ?_, fun sample => ⟨fun hneg => ?_, fun hneg => ?_⟩,
    fun others hperm => afterCalls_of_perm t hperm, average_eq_noData_iff, fun hsome q => ?_⟩
  · rw [afterCalls_append]
    exact le_afterCalls now further
  · exact grow_of_not_accepts (accepts_eq_false_iff.mpr hneg) now
  · have haccepts : accepts sample = true :=
      Bool.eq_true_of_not_eq_false (mt accepts_eq_false_iff.mp hneg)
    refine ⟨_, grow_of_accepts haccepts now, ?_, ?_⟩ <;> dsimp only <;> omega
  · have hpos : 0 < now.count := Nat.pos_of_ne_zero hsome
    rw [← average_eq_iff hpos]
    constructor
    · rintro rfl
      exact ⟨average_nonneg hpos, rfl⟩
    · exact And.right

/-- Samples, two of them with a negative number. -/
def mixedSamples : List (Int × Int) := [(50, 5), (-1, 1), (7, 0), (3, -2)]

/-- Two of the four samples are added, in either order, and the average is that of their sums. -/
theorem afterCalls_sums_mixed :
    make 100 10 = .ok ⟨100, 10⟩ ∧
      ((afterCalls ⟨100, 10⟩ mixedSamples).total : Int) = 100 + 57 ∧
      ((afterCalls ⟨100, 10⟩ mixedSamples).count : Int) = 10 + 5 ∧
      afterCalls ⟨100, 10⟩ mixedSamples.reverse = afterCalls ⟨100, 10⟩ mixedSamples ∧
      (afterCalls ⟨100, 10⟩ mixedSamples).average = 10 := by
  have hmade : make 100 10 = .ok ⟨100, 10⟩ := rfl
  obtain ⟨htotal, hcount, -, -, hperm, -, haverage⟩ := afterCalls_sums hmade mixedSamples
  refine ⟨hmade, htotal, hcount, hperm _ (List.reverse_perm _), ?_⟩
  exact (haverage (by decide) 10).mpr (by decide)

end MapMetrics.LatencyTotals
