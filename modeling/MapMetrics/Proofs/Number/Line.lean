import MapMetrics.Proofs.Number.Rounding

/-!
# Machine numbers on a line

Every finite machine number is a whole number of units away from zero, to one side or the other, and
the two infinite ones are as far as the first power of two that is out of range. Numbers are
compared as these places are, and a number that is stored in 64 bits and read again keeps its place
unless it is beyond the infinite ones.
-/

namespace MapMetrics.Rounding

open Float.Model Float.Model.UnpackedFloat

/-! ## Places -/

theorem Canonical.units_lt_full {m : Nat} {e : Int} (h : Canonical m e) :
    units m e < units (2 ^ 53) e :=
  Nat.mul_lt_mul_of_pos_right h.regular.lt (Nat.two_pow_pos _)

/-- Numbers with a greater exponent are greater than all with a lesser one. -/
theorem Canonical.full_le_units {m : Nat} {e e' : Int} (h : Canonical m e) (hleast : -1074 ≤ e')
    (hlt : e' < e) : units (2 ^ 53) e' ≤ units m e := by
  have hfull : 2 ^ 52 ≤ m := h.regular.full_or_least.resolve_right (by omega)
  calc
    units (2 ^ 53) e' = 2 ^ 52 * 2 ^ ((e' + 1074).toNat + 1) := by
      rw [units, ← Nat.pow_add, ← Nat.pow_add]
      congr 1
      omega
    _ ≤ units m e := Nat.mul_le_mul hfull (Nat.pow_le_pow_right Nat.two_pos (by omega))

/-- Numbers are compared as their places on the line are. -/
theorem Canonical.compare_eq {m m' : Nat} {e e' : Int} (h : Canonical m e)
    (h' : Canonical m' e') :
    (compare e e').then (compare m m') = compare (units m e : Int) (units m' e') := by
  rcases Int.lt_trichotomy e e' with hlt | rfl | hgt
  · have hunits := h.units_lt_full.trans_le (h'.full_le_units h.least_le hlt)
    rw [Int.compare_eq_lt.mpr hlt, Int.compare_eq_lt.mpr (Int.ofNat_lt.mpr hunits)]
    rfl
  · have hplace : 0 < 2 ^ (e + 1074).toNat := Nat.two_pow_pos _
    rw [Int.compare_eq_eq.mpr rfl, Ordering.eq_then]
    rcases Nat.lt_trichotomy m m' with hm | rfl | hm
    · rw [Nat.compare_eq_lt.mpr hm, Int.compare_eq_lt.mpr]
      exact Int.ofNat_lt.mpr (Nat.mul_lt_mul_of_pos_right hm hplace)
    · rw [Nat.compare_eq_eq.mpr rfl, Int.compare_eq_eq.mpr rfl]
    · rw [Nat.compare_eq_gt.mpr hm, Int.compare_eq_gt.mpr]
      exact Int.ofNat_lt.mpr (Nat.mul_lt_mul_of_pos_right hm hplace)
  · have hunits := h'.units_lt_full.trans_le (h.full_le_units h'.least_le hgt)
    rw [Int.compare_eq_gt.mpr hgt, Int.compare_eq_gt.mpr (Int.ofNat_lt.mpr hunits)]
    rfl

/-- The least power of two that is out of range, in units of the least number. -/
def ceiling : Nat :=
  units (2 ^ 53) 971

theorem Canonical.lt_ceiling_iff {m : Nat} {e : Int} (h : Canonical m e) :
    units m e < ceiling ↔ e ≤ 971 := by
  constructor
  · exact fun hlt => Int.not_lt.mp fun habove =>
      Nat.not_le.mpr hlt (h.full_le_units (by decide) habove)
  · exact fun hbelow => h.units_lt_full.trans_le
      (Nat.mul_le_mul_left _ (Nat.pow_le_pow_right Nat.two_pos (by omega)))

/-- The place of a number on the line, in units of the least one. The infinite ones are at both
ends, and what is no number has no place. -/
def level : UnpackedFloat → Option Int
  | .infinity s => some (s.apply ceiling)
  | .notANumber => none
  | .zero _ => some 0
  | .finite s m e _ => some (s.apply (units m e))

/-- The form in which the operations leave their result. -/
def Tidy : UnpackedFloat → Prop
  | .finite _ m e _ => Canonical m e
  | _ => True

/-- A result that is in range. -/
def Fits : UnpackedFloat → Prop
  | .finite _ m e _ => Canonical m e ∧ e ≤ 971
  | _ => True

theorem ceiling_pos : 0 < ceiling :=
  units_pos (Nat.two_pow_pos _) _

theorem Fits.units_lt {s : Sign} {m : Nat} {e : Int} {hm : 0 < m} (h : Fits (.finite s m e hm)) :
    units m e < ceiling :=
  h.1.lt_ceiling_iff.mpr h.2

/-- A number is at one of the ends of the line or between them. -/
theorem Fits.ends_or_finite {x : UnpackedFloat} (hx : Fits x) {a : Int} (ha : level x = some a) :
    x = .infinity .negative ∧ a = -(ceiling : Int) ∨
      x.isFinite = true ∧ -(ceiling : Int) < a ∧ a < ceiling ∨
      x = .infinity .positive ∧ a = ceiling := by
  have hc : 0 < ceiling := ceiling_pos
  cases x with
  | notANumber => cases ha
  | infinity s =>
    cases s with
    | negative => exact Or.inl ⟨rfl, (Option.some.inj ha).symm⟩
    | positive => exact Or.inr (Or.inr ⟨rfl, (Option.some.inj ha).symm⟩)
  | zero s =>
    obtain rfl : 0 = a := Option.some.inj ha
    exact Or.inr (Or.inl ⟨rfl, by omega, by omega⟩)
  | finite s m e hm =>
    obtain rfl : s.apply (units m e) = a := Option.some.inj ha
    have hlt := hx.units_lt
    refine Or.inr (Or.inl ⟨rfl, ?_⟩)
    cases s <;> simp only [Sign.apply] <;> omega

/-- Only the lowest number is at the lower end. -/
theorem Fits.eq_lowest {x : UnpackedFloat} (hx : Fits x) {a : Int} (ha : level x = some a)
    (hle : a ≤ -(ceiling : Int)) : x = .infinity .negative := by
  have hc : 0 < ceiling := ceiling_pos
  rcases hx.ends_or_finite ha with ⟨heq, -⟩ | ⟨-, hlt, -⟩ | ⟨-, heq⟩
  · exact heq
  · omega
  · omega

/-- Only the highest number is at the upper end. -/
theorem Fits.eq_highest {x : UnpackedFloat} (hx : Fits x) {a : Int} (ha : level x = some a)
    (hle : (ceiling : Int) ≤ a) : x = .infinity .positive := by
  have hc : 0 < ceiling := ceiling_pos
  rcases hx.ends_or_finite ha with ⟨-, heq⟩ | ⟨-, -, hlt⟩ | ⟨heq, -⟩
  · omega
  · omega
  · exact heq

theorem Fits.level_le {x : UnpackedFloat} (hx : Fits x) {a : Int} (ha : level x = some a) :
    a ≤ ceiling := by
  have hc : 0 < ceiling := ceiling_pos
  rcases hx.ends_or_finite ha with ⟨-, heq⟩ | ⟨-, -, hlt⟩ | ⟨-, heq⟩ <;> omega

theorem compare_neg_neg (a b : Int) : compare (-a) (-b) = (compare a b).swap := by
  rw [Int.compare_swap, Int.compare_eq_ite_lt, Int.compare_eq_ite_lt]
  simp only [Int.neg_lt_neg_iff]

/-- Numbers are compared as their places on the line are. -/
theorem Fits.compare_eq {x y : UnpackedFloat} (hx : Fits x) (hy : Fits y) :
    x.compare y = (level x).bind fun a => (level y).map (compare a) := by
  have hc : 0 < ceiling := ceiling_pos
  have ordered {o : Ordering} {a b : Int} (h : o.Compares a b) : some o = some (compare a b) := by
    cases o with
    | lt => rw [Int.compare_eq_lt.mpr h]
    | eq => rw [Int.compare_eq_eq.mpr h]
    | gt => rw [Int.compare_eq_gt.mpr h]
  -- the kinds and signs of two numbers decide, except for finite ones of the same sign
  cases x with
  | notANumber => rfl
  | infinity s =>
    cases y with
    | notANumber => cases s <;> rfl
    | infinity t =>
      cases s <;> cases t
      · exact ordered (o := .eq) rfl
      · exact ordered (o := .lt) (by simp only [Sign.apply, Ordering.Compares]; omega)
      · exact ordered (o := .gt) (by simp only [Sign.apply, Ordering.Compares]; omega)
      · exact ordered (o := .eq) rfl
    | zero t => cases s <;> exact ordered (by simp only [Sign.apply, Ordering.Compares]; omega)
    | finite t m e hm =>
      have hlt := hy.units_lt
      cases s <;> cases t <;> exact ordered (by simp only [Sign.apply, Ordering.Compares]; omega)
  | zero s =>
    cases y with
    | notANumber => rfl
    | infinity t => cases t <;> exact ordered (by simp only [Sign.apply, Ordering.Compares]; omega)
    | zero t => exact ordered rfl
    | finite t m e hm =>
      have hpos := units_pos hm e
      cases t <;> exact ordered (by simp only [Sign.apply, Ordering.Compares]; omega)
  | finite s m e hm =>
    have hpos := units_pos hm e
    cases y with
    | notANumber => cases s <;> rfl
    | infinity t =>
      have hlt := hx.units_lt
      cases s <;> cases t <;> exact ordered (by simp only [Sign.apply, Ordering.Compares]; omega)
    | zero t => cases s <;> exact ordered (by simp only [Sign.apply, Ordering.Compares]; omega)
    | finite t m' e' hm' =>
      have hpos' := units_pos hm' e'
      have hsame := hx.1.compare_eq hy.1
      cases s <;> cases t
      · exact congrArg some ((congrArg Ordering.swap hsame).trans (compare_neg_neg _ _).symm)
      · exact ordered (by simp only [Sign.apply, Ordering.Compares]; omega)
      · exact ordered (by simp only [Sign.apply, Ordering.Compares]; omega)
      · exact congrArg some hsame

/-- A number is at most another one if its place is. -/
theorem Fits.le_iff {x y : UnpackedFloat} (hx : Fits x) (hy : Fits y) :
    x.le y = true ↔ ∃ a b, level x = some a ∧ level y = some b ∧ a ≤ b := by
  rw [UnpackedFloat.le, hx.compare_eq hy]
  cases level x with
  | none => simp
  | some a =>
    cases level y with
    | none => simp
    | some b => simp [Int.isLE_compare]

/-! ## Storing numbers -/

theorem toNat_implicit (v : BitVec 52) : (1#1 ++ v).toNat = 2 ^ 52 + v.toNat := by
  rw [BitVec.toNat_append, ← Nat.shiftLeft_add_eq_or_of_lt v.isLt]
  rfl

theorem toNat_lt_of_ne_neg_one {v : BitVec 11} (h : v ≠ -1#11) : v.toNat < 2047 := by
  have hle : v.toNat < 2048 := v.isLt
  have hne : v.toNat ≠ 2047 := fun heq => h (BitVec.eq_of_toNat_eq heq)
  omega

/-- All numbers are stored in range. -/
theorem fits_unpack (b : BitVec Format.binary64.numBits) :
    Fits (UnpackedFloat.unpack .binary64 b) := by
  have hm : (unpackMantissa b).toNat < 2 ^ 52 := (unpackMantissa b).isLt
  have hbias : ((Format.binary64.exponentBias : Nat) : Int) = 1023 := rfl
  unfold UnpackedFloat.unpack
  dsimp only
  split
  · split <;> trivial
  · next hfull =>
    have hlt := toNat_lt_of_ne_neg_one hfull
    split
    · next hzero =>
      split
      · trivial
      · rw [hzero, hbias]
        exact ⟨⟨by decide, by omega, Or.inr (by decide)⟩, by decide⟩
    · next hzero =>
      have hpos : (unpackExponent b).toNat ≠ 0 := fun h => hzero (BitVec.eq_of_toNat_eq h)
      have himplicit : (1#1 ++ unpackMantissa b).toNat = 2 ^ 52 + (unpackMantissa b).toNat :=
        toNat_implicit _
      rw [hbias]
      exact ⟨⟨by omega, by omega, Or.inl (by omega)⟩, by omega⟩

theorem finite_congr {s : Sign} {m m' : Nat} {e e' : Int} (hm : 0 < m) (hm' : 0 < m')
    (h : m = m') (h' : e = e') : finite s m e hm = finite s m' e' hm' := by
  subst h h'
  rfl

/-- The digits of a number after the first are stored beside its exponent. -/
theorem unpack_packComponents {s : Sign} {m : Nat} {e : Int} (hm : 0 < m) {field : BitVec 11}
    {digits : BitVec 52} (hm' : 2 ^ 52 + digits.toNat = m) (he : (field.toNat : Int) - 1075 = e)
    (hleast : -1074 ≤ e) (hmost : e ≤ 971) :
    UnpackedFloat.unpack .binary64 (packComponents .binary64 s field digits) = finite s m e hm := by
  have hnotfull : field ≠ -1#11 := by
    rintro rfl
    have : (-1#11).toNat = 2047 := rfl
    omega
  have hnotleast : field ≠ 0#11 := by
    rintro rfl
    have : (0#11).toNat = 0 := rfl
    omega
  have hbias : ((Format.binary64.exponentBias : Nat) : Int) = 1023 := rfl
  unfold UnpackedFloat.unpack
  simp only [unpackMantissa_packComponents, unpackExponent_packComponents,
    unpackSign_packComponents, Sign.ofBitVec_toBitVec]
  rw [if_neg hnotfull, if_neg hnotleast]
  refine finite_congr _ _ ((toNat_implicit digits).trans hm') ?_
  rw [hbias]
  omega

/-- A number with the least exponent and without the first place has no exponent beside it. -/
theorem unpack_packComponents_zero {s : Sign} {m : Nat} (hm : 0 < m) {digits : BitVec 52}
    (hm' : digits.toNat = m) :
    UnpackedFloat.unpack .binary64 (packComponents .binary64 s 0#11 digits) =
      finite s m (-1074) hm := by
  have hnotzero : digits ≠ 0#52 := by
    rintro rfl
    exact hm.ne hm'
  unfold UnpackedFloat.unpack
  simp only [unpackMantissa_packComponents, unpackExponent_packComponents,
    unpackSign_packComponents, Sign.ofBitVec_toBitVec]
  rw [if_neg (by decide), if_pos trivial, dif_neg hnotzero]
  exact finite_congr _ _ hm' rfl

/-- A number in range is read as it was stored. -/
theorem Fits.unpack_pack {x : UnpackedFloat} (hx : Fits x) :
    UnpackedFloat.unpack .binary64 (UnpackedFloat.pack .binary64 x) = x := by
  cases x with
  | notANumber => rfl
  | infinity s => cases s <;> rfl
  | zero s => cases s <;> rfl
  | finite s m e hm =>
    obtain ⟨⟨hleast, hlt, hfull_or_least⟩, hmost⟩ := hx
    have hbias : ((Format.binary64.exponentBias : Nat) : Int) = 1023 := rfl
    have hrange : ¬ 2 ^ 11 ≤ (e + (Format.binary64.exponentBias : Nat) + (52 : Nat)).toNat + 1 := by
      omega
    have hdigits : (BitVec.ofNat 52 m).toNat = m % 2 ^ 52 := BitVec.toNat_ofNat ..
    unfold UnpackedFloat.pack
    simp only [if_neg hrange]
    by_cases hfull : 2 ^ 52 ≤ m
    · have hlog : m.log2 = 52 := (Nat.log2_eq_iff hm.ne').mpr ⟨hfull, hlt⟩
      rw [if_pos (by rw [hlog]; rfl)]
      refine unpack_packComponents hm (by omega) ?_ hleast hmost
      rw [BitVec.toNat_ofNat, hbias]
      omega
    · have hlog : m.log2 < 52 := (Nat.log2_lt hm.ne').mpr (by omega)
      obtain rfl : e = -1074 := by omega
      have hplaces : Format.binary64.mantissaBits = 53 := rfl
      rw [if_neg (by omega)]
      exact unpack_packComponents_zero hm (by omega)

/-- The infinite number is stored for one that is out of range. -/
theorem pack_of_large {s : Sign} {m : Nat} {e : Int} (hm : 0 < m) (h : 971 < e) :
    UnpackedFloat.pack .binary64 (.finite s m e hm) =
      UnpackedFloat.pack .binary64 (.infinity s) := by
  have hbias : ((Format.binary64.exponentBias : Nat) : Int) = 1023 := rfl
  unfold UnpackedFloat.pack
  dsimp only
  rw [if_pos (by rw [hbias]; omega)]

/-- A number as it is stored and read again. -/
def stored (x : UnpackedFloat) : UnpackedFloat :=
  UnpackedFloat.unpack .binary64 (UnpackedFloat.pack .binary64 x)

/-- A number that is stored and read again keeps its place, or it goes to the end of the line
beyond which it is. -/
theorem Tidy.level_stored {x : UnpackedFloat} (hx : Tidy x) :
    level (stored x) = (level x).map fun a => max (-(ceiling : Int)) (min a ceiling) := by
  have hc : 0 < ceiling := ceiling_pos
  rw [stored]
  have hinfinity (s : Sign) : Fits (.infinity s) := trivial
  cases x with
  | notANumber => rfl
  | infinity s =>
    rw [(hinfinity s).unpack_pack]
    cases s <;> simp only [level, Sign.apply, Option.map_some, Option.some.injEq] <;> omega
  | zero s =>
    have hzero : Fits (.zero s) := trivial
    rw [hzero.unpack_pack]
    simp only [level, Option.map_some, Option.some.injEq]
    omega
  | finite s m e hm =>
    have hpos := units_pos hm e
    have hrange : units m e < ceiling ↔ e ≤ 971 := Canonical.lt_ceiling_iff hx
    by_cases hmost : e ≤ 971
    · have hfits : Fits (.finite s m e hm) := ⟨hx, hmost⟩
      have hlt := hfits.units_lt
      rw [hfits.unpack_pack]
      cases s <;> simp only [level, Sign.apply, Option.map_some, Option.some.injEq] <;> omega
    · have hle := Nat.not_lt.mp (mt hrange.mp hmost)
      rw [pack_of_large hm (Int.not_le.mp hmost), (hinfinity s).unpack_pack]
      cases s <;> simp only [level, Sign.apply, Option.map_some, Option.some.injEq] <;> omega

end MapMetrics.Rounding
