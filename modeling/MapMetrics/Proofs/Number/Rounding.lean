import Mathlib

/-!
# Rounding to binary places

A natural number with more than 53 binary digits is rounded to a multiple of a power of two, the
nearest one, and of two that are equally near the even one. The arithmetic of machine numbers does
this by shifting one digit out after another while it keeps the last one and whether there were any
others. Rounding never changes the order of numbers.

A machine number is such a number of units, the unit being the least one above zero; its exponent
counts the zeros that its digits stand before.
-/

namespace MapMetrics.Rounding

open Float.Model Float.Model.UnpackedFloat

/-- A number divided by a power of two, to the nearest integer, and to the even one of two. -/
def nearest (k n : Nat) : Nat :=
  if 2 * (n % 2 ^ k) < 2 ^ k then n / 2 ^ k
  else if 2 * (n % 2 ^ k) = 2 ^ k then n / 2 ^ k + n / 2 ^ k % 2
  else n / 2 ^ k + 1

/-- The places of a number beyond its first 53. -/
def excess (n : Nat) : Nat :=
  n.log2 - 52

/-- A number rounded to 53 places. -/
def rounded (n : Nat) : Nat :=
  nearest (excess n) n * 2 ^ excess n

/-- At most 53 places before some zeros: all of them, unless there are no zeros. -/
structure Regular (m k : Nat) : Prop where
  lt : m < 2 ^ 53
  full_or_least : 2 ^ 52 ≤ m ∨ k = 0

/-! ## Shifting digits out -/

/-- After some shifts the digits that are left make the quotient, and the others are remembered as
far as rounding needs them. -/
theorem exact_shiftRight (n k : Nat) :
    ExtendedMantissa.ofMantissaAndAccuracy n .exact >>> k =
      ⟨n / 2 ^ k, decide (2 ^ k ≤ 2 * (n % 2 ^ k)), decide (2 * (n % 2 ^ k) % 2 ^ k ≠ 0)⟩ := by
  induction k with
  | zero => simp [HShiftRight.hShiftRight, Nat.repeat, ExtendedMantissa.ofMantissaAndAccuracy,
      Nat.mod_one]
  | succ k ih =>
    change (ExtendedMantissa.ofMantissaAndAccuracy n .exact >>> k).shiftRightOne = _
    have hr : n % 2 ^ k < 2 ^ k := Nat.mod_lt _ (Nat.two_pow_pos k)
    have hmod : n % 2 ^ (k + 1) = n % 2 ^ k + 2 ^ k * (n / 2 ^ k % 2) := Nat.mod_pow_succ
    have hlow : 2 * (n % 2 ^ (k + 1)) % 2 ^ (k + 1) = 2 * (n % 2 ^ k) := by
      rw [hmod, Nat.pow_succ', Nat.mul_mod_mul_left, Nat.add_mul_mod_self_left, Nat.mod_mod]
    rw [ih, ExtendedMantissa.shiftRightOne, ExtendedMantissa.mk.injEq, hlow]
    refine ⟨by rw [Nat.div_div_eq_div_mul, Nat.pow_succ], ?_, ?_⟩
    · rw [hmod, Nat.pow_succ']
      rcases Nat.mod_two_eq_zero_or_one (n / 2 ^ k) with hb | hb
      · rw [hb, Nat.mul_zero, Nat.add_zero, decide_eq_false (by omega)]
        rfl
      · rw [hb, Nat.mul_one, decide_eq_true (by omega)]
        rfl
    · rw [← Bool.decide_or, decide_eq_decide]
      constructor
      · rintro (h | h) h0
        · omega
        · rw [h0, Nat.zero_mod] at h
          exact h rfl
      · intro h
        by_cases hhalf : 2 ^ k ≤ 2 * (n % 2 ^ k)
        · exact Or.inl hhalf
        · exact Or.inr (by rwa [Nat.mod_eq_of_lt (by omega)])

/-- What is remembered is enough to round to the nearest quotient. -/
theorem roundedMantissa_shiftRight (n k : Nat) :
    (ExtendedMantissa.ofMantissaAndAccuracy n .exact >>> k).roundedMantissa = nearest k n := by
  have hr : n % 2 ^ k < 2 ^ k := Nat.mod_lt _ (Nat.two_pow_pos k)
  rw [exact_shiftRight, nearest]
  by_cases hhalf : 2 ^ k ≤ 2 * (n % 2 ^ k)
  · have hrest : 2 * (n % 2 ^ k) % 2 ^ k = 2 * (n % 2 ^ k) - 2 ^ k := by
      rw [Nat.mod_eq_sub_mod hhalf, Nat.mod_eq_of_lt (by omega)]
    rw [decide_eq_true hhalf, if_neg (by omega), hrest]
    by_cases htie : 2 * (n % 2 ^ k) = 2 ^ k
    · rw [if_pos htie, decide_eq_false (by omega)]
      rfl
    · rw [if_neg htie, decide_eq_true (by omega)]
      rfl
  · rw [decide_eq_false hhalf, if_pos (by omega)]
    cases decide (2 * (n % 2 ^ k) % 2 ^ k ≠ 0) <;> rfl

/-! ## The nearest quotient -/

theorem div_le_nearest (k n : Nat) : n / 2 ^ k ≤ nearest k n := by
  rw [nearest]
  split
  · exact Nat.le_refl _
  · split
    · exact Nat.le_add_right _ _
    · exact Nat.le_succ _

theorem nearest_le_succ (k n : Nat) : nearest k n ≤ n / 2 ^ k + 1 := by
  rw [nearest]
  split
  · exact Nat.le_succ _
  · split
    · exact Nat.add_le_add_left (Nat.le_of_lt_succ (Nat.mod_lt _ Nat.two_pos)) _
    · exact Nat.le_refl _

/-- A multiple of the power of two is not rounded. -/
theorem nearest_mul_pow (k n : Nat) : nearest k (n * 2 ^ k) = n := by
  rw [nearest, Nat.mul_mod_left, Nat.mul_zero, if_pos (Nat.two_pow_pos k),
    Nat.mul_div_cancel _ (Nat.two_pow_pos k)]

/-- Digits that are all zero do not count. -/
theorem nearest_add_mul_pow (k j n : Nat) : nearest (k + j) (n * 2 ^ j) = nearest k n := by
  have hpow : 0 < 2 ^ j := Nat.two_pow_pos j
  have hdiv : n * 2 ^ j / 2 ^ (k + j) = n / 2 ^ k := by
    rw [Nat.pow_add, Nat.mul_div_mul_right _ _ hpow]
  have hmod : n * 2 ^ j % 2 ^ (k + j) = n % 2 ^ k * 2 ^ j := by
    rw [Nat.pow_add, Nat.mul_mod_mul_right]
  rw [nearest, nearest, hdiv, hmod, Nat.pow_add, ← Nat.mul_assoc]
  simp only [Nat.mul_lt_mul_right hpow, Nat.mul_left_inj hpow.ne']

/-- Quotients keep the order of numbers. -/
theorem nearest_mono (k : Nat) {m n : Nat} (h : m ≤ n) : nearest k m ≤ nearest k n := by
  rcases Nat.lt_or_eq_of_le (Nat.div_le_div_right (c := 2 ^ k) h) with hlt | heq
  · exact (nearest_le_succ k m).trans ((Nat.succ_le_of_lt hlt).trans (div_le_nearest k n))
  · have hrest : m % 2 ^ k ≤ n % 2 ^ k := by
      have hm := Nat.div_add_mod m (2 ^ k)
      have hn := Nat.div_add_mod n (2 ^ k)
      rw [heq] at hm
      omega
    have hparity : n / 2 ^ k % 2 < 2 := Nat.mod_lt _ Nat.two_pos
    rw [nearest, nearest, heq]
    -- the rest of the lesser one lies below, on or above the half, and that of the other not lower
    rcases Nat.lt_trichotomy (2 * (m % 2 ^ k)) (2 ^ k) with hm | hm | hm
    · rw [if_pos hm]
      split
      · exact Nat.le_refl _
      · split <;> omega
    · rw [if_neg (by omega), if_pos hm, if_neg (by omega)]
      split <;> omega
    · rw [if_neg (by omega), if_neg (by omega), if_neg (by omega), if_neg (by omega)]

/-! ## Rounded numbers -/

theorem log2_mono {m n : Nat} (h : m ≤ n) : m.log2 ≤ n.log2 := by
  rw [Nat.log2_eq_log_two, Nat.log2_eq_log_two]
  exact Nat.log_mono_right h

/-- A number has at most 53 places before its excess. -/
theorem lt_pow_excess (n : Nat) : n < 2 ^ 53 * 2 ^ excess n := by
  rw [← Nat.pow_add]
  refine Nat.lt_of_lt_of_le Nat.lt_log2_self (Nat.pow_le_pow_right Nat.two_pos ?_)
  rw [excess]
  omega

/-- A number with an excess has 53 places before it. -/
theorem pow_excess_le {n : Nat} (h : 0 < excess n) : 2 ^ 52 * 2 ^ excess n ≤ n := by
  rw [excess] at h
  rw [← Nat.pow_add, excess, show 52 + (n.log2 - 52) = n.log2 from by omega]
  exact Nat.log2_self_le (by rintro rfl; simp at h)

theorem nearest_excess_le (n : Nat) : nearest (excess n) n ≤ 2 ^ 53 := by
  have hdiv : n / 2 ^ excess n < 2 ^ 53 :=
    (Nat.div_lt_iff_lt_mul (Nat.two_pow_pos _)).mpr (lt_pow_excess n)
  exact (nearest_le_succ _ n).trans hdiv

theorem le_nearest_excess {n : Nat} (h : 0 < excess n) : 2 ^ 52 ≤ nearest (excess n) n :=
  ((Nat.le_div_iff_mul_le (Nat.two_pow_pos _)).mpr (pow_excess_le h)).trans (div_le_nearest _ n)

/-- Zeros at the end are places of a number like others. -/
theorem log2_mul_pow {m : Nat} (h : m ≠ 0) (k : Nat) : (m * 2 ^ k).log2 = m.log2 + k := by
  refine (Nat.log2_eq_iff (Nat.mul_ne_zero h (Nat.two_pow_pos k).ne')).mpr ⟨?_, ?_⟩
  · rw [Nat.pow_add]
    exact Nat.mul_le_mul_right _ (Nat.log2_self_le h)
  · rw [Nat.add_right_comm, Nat.pow_add]
    exact Nat.mul_lt_mul_of_pos_right Nat.lt_log2_self (Nat.two_pow_pos k)

/-- A number of at most 53 places before some zeros has those zeros in excess. -/
theorem Regular.excess_eq {m k : Nat} (h : Regular m k) : excess (m * 2 ^ k) = k := by
  rw [excess]
  rcases h.full_or_least with hfull | rfl
  · have hlog : m.log2 = 52 :=
      (Nat.log2_eq_iff (by omega)).mpr ⟨hfull, h.lt⟩
    rw [log2_mul_pow (by omega), hlog, Nat.add_sub_cancel_left]
  · rw [Nat.pow_zero, Nat.mul_one, Nat.sub_eq_zero_iff_le]
    exact (log2_mono (Nat.le_of_lt_succ h.lt)).trans (by decide)

/-- A number of at most 53 places before some zeros is not rounded. -/
theorem Regular.rounded_eq {m k : Nat} (h : Regular m k) : rounded (m * 2 ^ k) = m * 2 ^ k := by
  rw [rounded, h.excess_eq, nearest_mul_pow]

/-- Rounding never changes the order of numbers. -/
theorem rounded_mono {m n : Nat} (h : m ≤ n) : rounded m ≤ rounded n := by
  have hexcess : excess m ≤ excess n := Nat.sub_le_sub_right (log2_mono h) 52
  rcases Nat.lt_or_eq_of_le hexcess with hlt | heq
  · calc
      rounded m ≤ 2 ^ 53 * 2 ^ excess m := Nat.mul_le_mul_right _ (nearest_excess_le m)
      _ = 2 ^ 52 * 2 ^ (excess m + 1) := by rw [← Nat.pow_add, ← Nat.pow_add]; congr 1; omega
      _ ≤ 2 ^ 52 * 2 ^ excess n := Nat.mul_le_mul_left _ (Nat.pow_le_pow_right Nat.two_pos hlt)
      _ ≤ rounded n := Nat.mul_le_mul_right _ (le_nearest_excess (by omega))
  · rw [rounded, rounded, heq]
    exact Nat.mul_le_mul_right _ (nearest_mono _ h)

/-! ## Digits and exponents -/

/-- A binary number in units of the least one. -/
def units (m : Nat) (e : Int) : Nat :=
  m * 2 ^ (e + 1074).toNat

/-- The form in which the operations leave the digits and the exponent of a number. -/
structure Canonical (m : Nat) (e : Int) : Prop where
  least_le : -1074 ≤ e
  regular : Regular m (e + 1074).toNat

/-- Places counted from the least one. -/
theorem units_sub (m k : Nat) : units m (k - 1074) = m * 2 ^ k := by
  rw [units, Int.sub_add_cancel, Int.toNat_natCast]

theorem Regular.canonical {m k : Nat} (h : Regular m k) : Canonical m (k - 1074) where
  least_le := by omega
  regular := by rwa [Int.sub_add_cancel, Int.toNat_natCast]

theorem units_pos {m : Nat} (hm : 0 < m) (e : Int) : 0 < units m e :=
  Nat.mul_pos hm (Nat.two_pow_pos _)

/-- Zeros appended to the digits make up for a lower exponent. -/
theorem units_shiftLeft {m : Nat} {e : Int} {k : Nat} (h : -1074 ≤ e - k) :
    units (m <<< k) (e - k) = units m e := by
  rw [units, units, Nat.shiftLeft_eq, Nat.mul_assoc, ← Nat.pow_add]
  congr 2
  omega

theorem nearest_excess_ne_zero {n : Nat} (h : n ≠ 0) : nearest (excess n) n ≠ 0 := by
  rcases Nat.eq_zero_or_pos (excess n) with hzero | hpos
  · rw [hzero, ← Nat.mul_one n, ← Nat.pow_zero 2, nearest_mul_pow]
    exact h
  · have := le_nearest_excess hpos
    omega

section Exponents

variable {m n : Nat} {e : Int}

/-- Rounding aims at the exponent that leaves the excess out. -/
theorem targetExponent_eq (hm : m ≠ 0) (he : -1074 ≤ e) (hn : units m e = n) :
    Format.binary64.targetExponent (totalExponent m e) = excess n - 1074 := by
  have hlog := log2_mul_pow hm (e + 1074).toNat
  rw [excess, ← hn, units, hlog]
  simp only [Format.targetExponent, totalExponent, Format.mantissaBits, Format.minExponent]
  omega

/-- The digits beyond the aim are shifted out. -/
theorem shiftToTargetExponent_eq (hm : m ≠ 0) (he : -1074 ≤ e) (hn : units m e = n)
    (haim : e ≤ excess n - 1074) :
    shiftToTargetExponent .binary64 m e .exact =
      (ExtendedMantissa.ofMantissaAndAccuracy m .exact >>> ((excess n - 1074 : Int) - e).toNat,
        (excess n - 1074 : Int)) := by
  simp only [shiftToTargetExponent, targetExponent_eq hm he hn, shiftToExponent, Prod.mk.injEq,
    true_and]
  omega

/-- Digits shifted to the aim are rounded like the number. -/
theorem nearest_units (he : -1074 ≤ e) (hn : units m e = n) (haim : e ≤ excess n - 1074) :
    nearest ((excess n - 1074 : Int) - e).toNat m = nearest (excess n) n := by
  have hsum : ((excess n - 1074 : Int) - e).toNat + (e + 1074).toNat = excess n := by omega
  rw [← nearest_add_mul_pow _ (e + 1074).toNat, hsum, ← units, hn]

/-- Rounded digits that need one more place are shifted once more, and all others are kept. -/
theorem canonical_of_nearest (hn : n ≠ 0) :
    ∃ m e, shiftToTargetExponent .binary64 (nearest (excess n) n) (excess n - 1074) .exact =
      (⟨m, false, false⟩, e) ∧ m ≠ 0 ∧ Canonical m e ∧ units m e = rounded n := by
  have hr : nearest (excess n) n ≠ 0 := nearest_excess_ne_zero hn
  have hunits : units (nearest (excess n) n) (excess n - 1074) = rounded n := units_sub _ _
  rcases Nat.lt_or_eq_of_le (nearest_excess_le n) with hlt | heq
  · have hregular : Regular (nearest (excess n) n) (excess n) :=
      ⟨hlt, (Nat.eq_zero_or_pos (excess n)).symm.imp_left le_nearest_excess⟩
    have hsame : excess (rounded n) = excess n := hregular.excess_eq
    refine ⟨nearest (excess n) n, excess n - 1074, ?_, hr, hregular.canonical, hunits⟩
    rw [shiftToTargetExponent_eq hr (by omega) hunits (by omega), hsame, Int.sub_self]
    rfl
  · have hregular : Regular (2 ^ 52) (excess n + 1) := ⟨by decide, Or.inl (Nat.le_refl _)⟩
    have hdouble : rounded n = 2 ^ 52 * 2 ^ (excess n + 1) := by
      rw [rounded, heq, ← Nat.pow_add, ← Nat.pow_add]
      congr 1
      omega
    have hmore : excess (rounded n) = excess n + 1 := hdouble ▸ hregular.excess_eq
    refine ⟨2 ^ 52, (excess n + 1 : Nat) - 1074, ?_, by decide, hregular.canonical, ?_⟩
    · rw [shiftToTargetExponent_eq hr (by omega) hunits (by omega), hmore, heq,
        show ((excess n + 1 : Nat) - 1074 - (excess n - 1074) : Int).toNat = 1 by omega]
      rfl
    · rw [units_sub, hdouble]

/-- Digits and exponent below the aim are rounded. -/
theorem roundWithAccuracy_eq (s : Sign) (hm : m ≠ 0) (he : -1074 ≤ e) (hn : units m e = n)
    (haim : e ≤ excess n - 1074) :
    ∃ m' e' h, roundWithAccuracy .binary64 s m e .exact = .finite s m' e' h ∧ Canonical m' e' ∧
      units m' e' = rounded n := by
  obtain ⟨m', e', hshift, hm', hcanonical, hunits⟩ :=
    canonical_of_nearest (hn ▸ (units_pos (Nat.pos_of_ne_zero hm) e).ne')
  refine ⟨m', e', Nat.pos_of_ne_zero hm', ?_, hcanonical, hunits⟩
  unfold roundWithAccuracy
  rw [shiftToTargetExponent_eq hm he hn haim]
  simp only [roundedMantissa_shiftRight, nearest_units he hn haim, hshift, dif_neg hm']

/-- An operation brings an exact result into canonical form and rounds it. -/
theorem round_eq (s : Sign) (hm : m ≠ 0) (he : -1074 ≤ e) :
    ∃ m' e' h, UnpackedFloat.round .binary64 s m e = .finite s m' e' h ∧ Canonical m' e' ∧
      units m' e' = rounded (units m e) := by
  have hunits := units_shiftLeft (m := m) (e := e)
    (k := (e - (excess (units m e) - 1074 : Int)).toNat) (by omega)
  unfold UnpackedFloat.round
  simp only [targetExponent_eq hm he rfl, decreaseExponent]
  refine roundWithAccuracy_eq s ?_ (by omega) hunits (by omega)
  rw [Nat.shiftLeft_eq]
  exact Nat.mul_ne_zero hm (Nat.two_pow_pos _).ne'

end Exponents

end MapMetrics.Rounding
