import MapMetrics.Collector.Basic

/-!
# Clocks and intervals

The difference of two equal clock readings is zero or no number at all, and neither reaches an
interval above zero: a collector that has been stamped is not due as long as the clock stands still.
-/

namespace MapMetrics

open Float.Model

private theorem unpacked_sub_self (x : UnpackedFloat) :
    UnpackedFloat.sub Format.binary64 x x = .zero .positive ∨
      UnpackedFloat.sub Format.binary64 x x = .notANumber := by
  cases x with
  | infinity s => cases s <;> exact Or.inr rfl
  | notANumber => exact Or.inr rfl
  | zero s => cases s <;> exact Or.inl rfl
  | finite s m e hm =>
    left
    change UnpackedFloat.normalize Format.binary64 (_ - _) _ _ = _
    rw [Int.sub_self]
    rfl

/-- No time passes between equal readings; between infinite ones this is not even a number. -/
theorem float_sub_self (x : Float) : x - x = 0.0 ∨ x - x = 0.0 / 0.0 := by
  have hsub : x - x = .ofModel
      (pack (UnpackedFloat.sub Format.binary64 x.toModel.unpack x.toModel.unpack)) := rfl
  rw [hsub]
  rcases unpacked_sub_self x.toModel.unpack with h | h
  · rw [h]
    exact Or.inl (by decide)
  · rw [h]
    exact Or.inr (by decide)

/-- Nothing is at most what is no number. -/
theorem not_float_le_nan (x : Float) : ¬ x ≤ 0.0 / 0.0 := by
  intro h
  have hle : UnpackedFloat.le x.toModel.unpack (0.0 / 0.0 : Float).toModel.unpack = true :=
    of_decide_eq_true h
  have hnan : (0.0 / 0.0 : Float).toModel.unpack = .notANumber := by rfl
  have hnone (y : UnpackedFloat) : UnpackedFloat.compare y .notANumber = none := by
    cases y <;> rfl
  rw [hnan, UnpackedFloat.le, hnone] at hle
  cases hle

/-- An interval that the registry accepts never passes while the clock stands still. -/
theorem not_float_le_sub_self {interval : Float} (h : ¬ interval ≤ 0.0) (now : Float) :
    ¬ interval ≤ now - now := by
  rcases float_sub_self now with hz | hn
  · rwa [hz]
  · rw [hn]
    exact not_float_le_nan interval

/-- A collector that has been stamped is not due at the same reading. -/
theorem Collector.isDue_stamped {c : Collector} (h : ¬ c.interval ≤ 0.0) (now : Float) :
    isDue now { c with last := now } = false := by
  rw [isDue, decide_eq_false (not_float_le_sub_self h now), Bool.and_false]

end MapMetrics
