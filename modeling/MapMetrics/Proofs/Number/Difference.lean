import MapMetrics.Proofs.Number.Line

/-!
# Differences of machine numbers

Between finite numbers the difference is the exact one, rounded, and an infinite one if that is out
of range. Rounding can make a distance longer or shorter, but it never makes the distance to a
later reading of a clock shorter than the one to an earlier reading.
-/

namespace MapMetrics.Rounding

open Float.Model Float.Model.UnpackedFloat

/-- A place on the line rounded to 53 places, on either side alike. -/
def roundedLevel (a : Int) : Int :=
  if 0 ≤ a then rounded a.toNat else -rounded (-a).toNat

theorem roundedLevel_natCast (n : Nat) : roundedLevel n = rounded n := by
  rw [roundedLevel, if_pos (Int.natCast_nonneg n), Int.toNat_natCast]

theorem roundedLevel_neg (a : Int) : roundedLevel (-a) = -roundedLevel a := by
  rw [roundedLevel, roundedLevel]
  rcases Int.lt_trichotomy a 0 with hneg | rfl | hpos
  · rw [if_pos (by omega), if_neg (by omega), Int.neg_neg]
  · rfl
  · rw [if_neg (by omega), if_pos (by omega), Int.neg_neg]

theorem roundedLevel_apply (s : Sign) (n : Nat) :
    roundedLevel (s.apply n) = s.apply (rounded n) := by
  cases s with
  | positive => exact roundedLevel_natCast n
  | negative => exact (roundedLevel_neg n).trans (congrArg Neg.neg (roundedLevel_natCast n))

theorem Canonical.roundedLevel_eq {m : Nat} {e : Int} (h : Canonical m e) (s : Sign) :
    roundedLevel (s.apply (units m e)) = s.apply (units m e) := by
  rw [roundedLevel_apply, units, h.regular.rounded_eq]

theorem roundedLevel_mono {a b : Int} (h : a ≤ b) : roundedLevel a ≤ roundedLevel b := by
  rw [roundedLevel, roundedLevel]
  split
  · have hmono := rounded_mono (m := a.toNat) (n := b.toNat) (by omega)
    rw [if_pos (by omega)]
    omega
  · split
    · omega
    · have hmono := rounded_mono (m := (-b).toNat) (n := (-a).toNat) (by omega)
      omega

/-- An exact result is brought into form and rounded. -/
theorem round_tidy (s : Sign) {m : Nat} {e : Int} (hm : m ≠ 0) (he : -1074 ≤ e) :
    Tidy (UnpackedFloat.round .binary64 s m e) ∧
      level (UnpackedFloat.round .binary64 s m e) = some (roundedLevel (s.apply (units m e))) := by
  obtain ⟨m', e', hm', hround, hcanonical, hunits⟩ := round_eq s hm he
  rw [hround, roundedLevel_apply, ← hunits]
  exact ⟨hcanonical, rfl⟩

theorem normalize_tidy (d : Int) {e : Int} (he : -1074 ≤ e) :
    Tidy (UnpackedFloat.normalize .binary64 d e .positive) ∧
      level (UnpackedFloat.normalize .binary64 d e .positive) =
        some (roundedLevel (d * (2 ^ (e + 1074).toNat : Nat))) := by
  unfold UnpackedFloat.normalize
  rcases Int.lt_trichotomy d 0 with hneg | rfl | hpos
  · rw [Int.compare_eq_lt.mpr hneg]
    have hcast : d * (2 ^ (e + 1074).toNat : Nat) = Sign.negative.apply (units (-d).toNat e) := by
      rw [units, Sign.apply, Int.natCast_mul, Int.toNat_of_nonneg (by omega), Int.neg_mul,
        Int.neg_neg]
    rw [hcast]
    exact round_tidy .negative (by omega) he
  · rw [Int.compare_eq_eq.mpr rfl, Int.zero_mul]
    exact ⟨trivial, rfl⟩
  · rw [Int.compare_eq_gt.mpr hpos]
    have hcast : d * (2 ^ (e + 1074).toNat : Nat) = Sign.positive.apply (units d.toNat e) := by
      rw [units, Sign.apply, Int.natCast_mul, Int.toNat_of_nonneg (by omega)]
    rw [hcast]
    exact round_tidy .positive (by omega) he

theorem neg_apply (s : Sign) (a : Int) : (-s).apply a = -s.apply a := by
  cases s with
  | positive => rfl
  | negative => exact (Int.neg_neg a).symm

/-- Digits brought to a lesser exponent, in units of the least number. -/
theorem apply_shiftLeft (s : Sign) {m : Nat} {e e' : Int} (hleast : -1074 ≤ e') (hle : e' ≤ e) :
    s.apply (m <<< (e - e').toNat : Nat) * (2 ^ (e' + 1074).toNat : Nat) =
      s.apply (units m e) := by
  have hsub : e - (e - e').toNat = e' := by omega
  have hunits : units (m <<< (e - e').toNat) e' = units m e := by
    have h := units_shiftLeft (m := m) (e := e) (k := (e - e').toNat) (by omega)
    rwa [hsub] at h
  cases s with
  | positive => exact congrArg Int.ofNat hunits
  | negative => exact (Int.neg_mul _ _).trans (congrArg (fun n : Nat => -(n : Int)) hunits)

/-- Between numbers that are not at the ends of the line the difference is exact up to rounding. -/
theorem sub_tidy {x y : UnpackedFloat} (hx : Fits x) (hy : Fits y) (hx' : x.isFinite = true)
    (hy' : y.isFinite = true) {a b : Int} (ha : level x = some a) (hb : level y = some b) :
    Tidy (sub .binary64 x y) ∧ level (sub .binary64 x y) = some (roundedLevel (a - b)) := by
  cases x with
  | notANumber => cases hx'
  | infinity s => cases hx'
  | zero s =>
    obtain rfl : 0 = a := Option.some.inj ha
    cases y with
    | notANumber => cases hy'
    | infinity t => cases hy'
    | zero t =>
      obtain rfl : 0 = b := Option.some.inj hb
      cases s <;> cases t <;> exact ⟨trivial, rfl⟩
    | finite t m e hm =>
      obtain rfl : t.apply (units m e) = b := Option.some.inj hb
      rw [Int.zero_sub, roundedLevel_neg, hy.1.roundedLevel_eq, ← neg_apply]
      exact ⟨hy.1, rfl⟩
  | finite s m e hm =>
    obtain rfl : s.apply (units m e) = a := Option.some.inj ha
    cases y with
    | notANumber => cases hy'
    | infinity t => cases hy'
    | zero t =>
      obtain rfl : 0 = b := Option.some.inj hb
      rw [Int.sub_zero, hx.1.roundedLevel_eq]
      exact ⟨hx.1, rfl⟩
    | finite t m' e' hm' =>
      obtain rfl : t.apply (units m' e') = b := Option.some.inj hb
      have hleast : -1074 ≤ min e e' := by
        have := hx.1.least_le
        have := hy.1.least_le
        omega
      rw [← apply_shiftLeft s hleast (Int.min_le_left e e'),
        ← apply_shiftLeft t hleast (Int.min_le_right e e'), ← Int.sub_mul]
      exact normalize_tidy _ hleast

theorem sub_infinity {x : UnpackedFloat} (hx : x.isFinite = true) (s : Sign) :
    sub .binary64 x (.infinity s) = .infinity (-s) := by
  cases x with
  | notANumber => cases hx
  | infinity t => cases hx
  | zero t => rfl
  | finite t m e hm => rfl

theorem infinity_sub {x : UnpackedFloat} (hx : x.isFinite = true) (s : Sign) :
    sub .binary64 (.infinity s) x = .infinity s := by
  cases x with
  | notANumber => cases hx
  | infinity t => cases hx
  | zero t => rfl
  | finite t m e hm => rfl

/-- An infinite number has no distance from itself. -/
theorem level_sub_infinity (s : Sign) :
    level (stored (sub .binary64 (.infinity s) (.infinity s))) = none := by
  cases s <;> rfl

section Distance

variable {x y z : UnpackedFloat} {a b c d : Int}

/-- Of two distances from a finite number the one to the greater number is not less. -/
theorem exists_level_sub_of_isFinite (hx : Fits x) (hy : Fits y) (hz : Fits z)
    (ha : level x = some a) (hb : level y = some b) (hc : level z = some c)
    (hfinite : z.isFinite = true) (hca : c ≤ a) (hab : a ≤ b)
    (hd : level (stored (sub .binary64 x z)) = some d) :
    ∃ d', level (stored (sub .binary64 y z)) = some d' ∧ d ≤ d' := by
  rcases hx.ends_or_finite ha with ⟨rfl, -⟩ | ⟨hx', hlow, -⟩ | ⟨rfl, haval⟩
  · cases hz.eq_lowest hc (hca.trans_eq (Option.some.inj ha).symm)
    cases hfinite
  · rcases hy.ends_or_finite hb with ⟨-, hbval⟩ | ⟨hy', -⟩ | ⟨rfl, -⟩
    · omega
    · obtain ⟨htidy, hlevel⟩ := sub_tidy hx hz hx' hfinite ha hc
      obtain ⟨htidy', hlevel'⟩ := sub_tidy hy hz hy' hfinite hb hc
      have hmono := roundedLevel_mono (Int.sub_le_sub_right hab c)
      rw [htidy.level_stored, hlevel, Option.map_some, Option.some.injEq] at hd
      refine ⟨_, by rw [htidy'.level_stored, hlevel', Option.map_some], ?_⟩
      omega
    · exact ⟨ceiling, by rw [infinity_sub hfinite]; rfl, (fits_unpack _).level_le hd⟩
  · cases hy.eq_highest hb (haval ▸ hab)
    exact ⟨d, hd, Int.le_refl d⟩

/-- Of two distances from a number that is not greater than either end, the one to the greater end
is not less. -/
theorem exists_level_sub (hx : Fits x) (hy : Fits y) (hz : Fits z) (ha : level x = some a)
    (hb : level y = some b) (hc : level z = some c) (hca : c ≤ a) (hab : a ≤ b)
    (hd : level (stored (sub .binary64 x z)) = some d) :
    ∃ d', level (stored (sub .binary64 y z)) = some d' ∧ d ≤ d' := by
  rcases hz.ends_or_finite hc with ⟨rfl, -⟩ | ⟨hfinite, -⟩ | ⟨rfl, hcval⟩
  · -- all other numbers are infinitely far from the lowest
    refine ⟨ceiling, ?_, (fits_unpack _).level_le hd⟩
    rcases hy.ends_or_finite hb with ⟨-, hbval⟩ | ⟨hy', -⟩ | ⟨rfl, -⟩
    · cases hx.eq_lowest ha (hbval ▸ hab)
      rw [level_sub_infinity] at hd
      cases hd
    · rw [sub_infinity hy']
      rfl
    · rfl
  · exact exists_level_sub_of_isFinite hx hy hz ha hb hc hfinite hca hab hd
  · cases hx.eq_highest ha (hcval ▸ hca)
    rw [level_sub_infinity] at hd
    cases hd

end Distance

/-- The order of machine numbers is that of their places. -/
theorem float_le_iff {x y : Float} :
    x ≤ y ↔ ∃ a b, level x.toModel.unpack = some a ∧ level y.toModel.unpack = some b ∧ a ≤ b := by
  have hx : Fits x.toModel.unpack := fits_unpack _
  have hy : Fits y.toModel.unpack := fits_unpack _
  rw [← hx.le_iff hy]
  exact ⟨fun h => of_decide_eq_true h, fun h => decide_eq_true h⟩

/-- A distance that is reached at one time is reached at every later one. -/
theorem float_le_sub_of_le_sub {interval last due stamp : Float} (hreached : interval ≤ due - last)
    (hdue : last ≤ due) (hstamp : due ≤ stamp) : interval ≤ stamp - last := by
  obtain ⟨c, a, hc, ha, hca⟩ := float_le_iff.mp hdue
  obtain ⟨a', b, ha', hb, hab⟩ := float_le_iff.mp hstamp
  obtain rfl : a = a' := Option.some.inj (ha.symm.trans ha')
  obtain ⟨i, d, hi, hd, hid⟩ := float_le_iff.mp hreached
  obtain ⟨d', hd', hdd'⟩ :=
    exists_level_sub (fits_unpack _) (fits_unpack _) (fits_unpack _) ha hb hc hca hab hd
  exact float_le_iff.mpr ⟨i, d', hi, hd', hid.trans hdd'⟩

/-! ## Readings above zero -/

/-- The strict order of machine numbers is that of their places, too. -/
theorem float_lt_iff {x y : Float} :
    x < y ↔ ∃ a b, level x.toModel.unpack = some a ∧ level y.toModel.unpack = some b ∧ a < b := by
  have hx : Fits x.toModel.unpack := fits_unpack _
  have hy : Fits y.toModel.unpack := fits_unpack _
  have hlt : x < y ↔ x.toModel.unpack.compare y.toModel.unpack = some .lt :=
    ⟨fun h => eq_of_beq (of_decide_eq_true h : x.toModel.unpack.lt y.toModel.unpack = true),
      fun h => decide_eq_true (beq_iff_eq.mpr h : x.toModel.unpack.lt y.toModel.unpack = true)⟩
  rw [hlt, hx.compare_eq hy]
  cases level x.toModel.unpack with
  | none => simp
  | some a =>
    cases level y.toModel.unpack with
    | none => simp
    | some b => simp [Int.compare_eq_lt]

theorem level_zero : level (0.0 : Float).toModel.unpack = some 0 := rfl

/-- Nothing is taken off by taking off zero. -/
theorem level_sub_zero (x : Float) : level (x - 0.0).toModel.unpack = level x.toModel.unpack := by
  have hsame : sub .binary64 x.toModel.unpack (0.0 : Float).toModel.unpack = x.toModel.unpack := by
    cases x.toModel.unpack with
    | zero s => cases s <;> rfl
    | _ => rfl
  change level (stored (sub .binary64 x.toModel.unpack (0.0 : Float).toModel.unpack)) = _
  have hx : Fits x.toModel.unpack := fits_unpack _
  rw [hsame, stored, hx.unpack_pack]

/-- What is no number has no place on the line, and nothing else has none. -/
theorem isNaN_iff {x : Float} : x.isNaN = true ↔ level x.toModel.unpack = none := by
  change x.toModel.unpack.isNaN = true ↔ _
  cases x.toModel.unpack with
  | notANumber => exact iff_of_true rfl rfl
  | infinity s => exact iff_of_false Bool.false_ne_true nofun
  | zero s => exact iff_of_false Bool.false_ne_true nofun
  | finite s m e hm => exact iff_of_false Bool.false_ne_true nofun

/-- What is no number is at most nothing. -/
theorem not_float_le_of_isNaN {x : Float} (h : x.isNaN = true) (y : Float) : ¬ x ≤ y := by
  intro hle
  obtain ⟨a, b, ha, -⟩ := float_le_iff.mp hle
  rw [isNaN_iff.mp h] at ha
  cases ha

/-- Not to be at most zero is to be above zero only for numbers. -/
theorem not_float_le_zero_iff {x : Float} : ¬ x ≤ 0.0 ↔ 0.0 < x ∨ x.isNaN = true := by
  rw [float_le_iff, float_lt_iff, isNaN_iff, level_zero]
  cases level x.toModel.unpack with
  | none => simp
  | some a => simp

theorem not_isNaN_of_float_pos {x : Float} (h : 0.0 < x) : x.isNaN = false := by
  obtain ⟨z, a, -, ha, -⟩ := float_lt_iff.mp h
  refine Bool.eq_false_iff.mpr fun hnan => ?_
  rw [isNaN_iff.mp hnan] at ha
  cases ha

theorem float_le_sub_zero_iff {x y : Float} : x ≤ y - 0.0 ↔ x ≤ y := by
  rw [float_le_iff, float_le_iff, level_sub_zero]

theorem float_lt_of_lt_of_le {x y z : Float} (hxy : x < y) (hyz : y ≤ z) : x < z := by
  obtain ⟨a, b, ha, hb, hab⟩ := float_lt_iff.mp hxy
  obtain ⟨b', c, hb', hc, hbc⟩ := float_le_iff.mp hyz
  obtain rfl : b = b' := Option.some.inj (hb.symm.trans hb')
  exact float_lt_iff.mpr ⟨a, c, ha, hc, hab.trans_le hbc⟩

/-- A reading that an interval above zero fits in is above zero. -/
theorem float_pos_of_le_sub_zero {interval due : Float} (hinterval : 0.0 < interval)
    (h : interval ≤ due - 0.0) : 0.0 < due :=
  float_lt_of_lt_of_le hinterval (float_le_sub_zero_iff.mp h)

/-- What is above zero is not zero. -/
theorem bne_zero_of_float_pos {x : Float} (h : 0.0 < x) : (x != 0.0) = true := by
  obtain ⟨z, a, hz, ha, hlt⟩ := float_lt_iff.mp h
  have hx : Fits x.toModel.unpack := fits_unpack _
  have hzero : Fits (0.0 : Float).toModel.unpack := fits_unpack _
  have hsame : (x == 0.0) = (x.toModel.unpack.compare (0.0 : Float).toModel.unpack == some .eq) :=
    rfl
  obtain rfl : 0 = z := Option.some.inj (level_zero.symm.trans hz)
  rw [bne, hsame, hx.compare_eq hzero, ha, hz]
  change (!(some (compare a 0) == some Ordering.eq)) = true
  rw [Int.compare_eq_gt.mpr hlt]
  rfl

end MapMetrics.Rounding
