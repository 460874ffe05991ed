import Mathlib

/-! # Doubles on either side of zero

Every double lies below zero, at it or above it, unless it is no number. All comparisons with zero
ask on which side it lies, so for a number they decide each other.
-/

namespace DocIndex.Decimal

open Float.Model

/-- The side of zero on which a double lies, if it is a number. -/
def side (x : Float) : Option Ordering := x.toModel.unpack.compare (.zero .positive)

theorem compare_zero_left (u : UnpackedFloat) :
    UnpackedFloat.compare (.zero .positive) u =
      (u.compare (.zero .positive)).map Ordering.swap := by
  cases u with
  | infinity s => cases s <;> rfl
  | notANumber => rfl
  | zero s => rfl
  | finite s m e hm => cases s <;> rfl

variable {x : Float}

theorem neg_iff : x < 0 ↔ side x = some .lt := by
  change decide (x.toModel < (0 : Float).toModel) = true ↔ _
  rw [decide_eq_true_iff]
  change (x.toModel.unpack.compare (.zero .positive) == some .lt) = true ↔ _
  rw [beq_iff_eq, side]

theorem pos_iff : 0 < x ↔ side x = some .gt := by
  change decide ((0 : Float).toModel < x.toModel) = true ↔ _
  rw [decide_eq_true_iff]
  change (UnpackedFloat.compare (.zero .positive) x.toModel.unpack == some .lt) = true ↔ _
  rw [beq_iff_eq, compare_zero_left, side]
  cases x.toModel.unpack.compare (.zero .positive) with
  | none => simp
  | some o => cases o <;> simp

theorem nonneg_iff : 0 ≤ x ↔ side x = some .eq ∨ side x = some .gt := by
  change decide ((0 : Float).toModel ≤ x.toModel) = true ↔ _
  rw [decide_eq_true_iff]
  change (UnpackedFloat.compare (.zero .positive) x.toModel.unpack).any (·.isLE) = true ↔ _
  rw [compare_zero_left, side]
  cases x.toModel.unpack.compare (.zero .positive) with
  | none => simp
  | some o => cases o <;> simp

theorem beq_zero_iff : (x == 0) = true ↔ side x = some .eq := by
  change (x.toModel.unpack.compare (.zero .positive) == some .eq) = true ↔ _
  rw [beq_iff_eq, side]

theorem eq_nan_iff : x = Float.nan ↔ side x = none := by
  rw [← decide_eq_true_iff (p := x = Float.nan), ← Float.isNaN_eq_decide_eq_nan]
  change x.toModel.unpack.isNaN = true ↔ x.toModel.unpack.compare (.zero .positive) = none
  cases x.toModel.unpack with
  | infinity s => cases s <;> simp [UnpackedFloat.isNaN, UnpackedFloat.compare]
  | notANumber => simp [UnpackedFloat.isNaN, UnpackedFloat.compare]
  | zero s => simp [UnpackedFloat.isNaN, UnpackedFloat.compare]
  | finite s m e hm => cases s <;> simp [UnpackedFloat.isNaN, UnpackedFloat.compare]

/-- A double that is not below zero is at it or above it, or no number. -/
theorem not_neg_iff : ¬x < 0 ↔ 0 ≤ x ∨ x = Float.nan := by
  rw [neg_iff, nonneg_iff, eq_nan_iff]
  cases side x with
  | none => simp
  | some o => cases o <;> simp

/-- The doubles from zero on are zero and those above it. -/
theorem nonneg_iff_pos_or_zero : 0 ≤ x ↔ 0 < x ∨ (x == 0) = true := by
  rw [nonneg_iff, pos_iff, beq_zero_iff, or_comm]

theorem nonneg_of_pos (h : 0 < x) : 0 ≤ x := nonneg_iff_pos_or_zero.mpr (.inl h)

theorem ne_nan_of_nonneg (h : 0 ≤ x) : x ≠ Float.nan := by
  rw [ne_eq, eq_nan_iff]
  rcases nonneg_iff.mp h with h | h <;> simp [h]

/-- A double above zero is not zero. -/
theorem beq_zero_of_pos (h : 0 < x) : (x == 0) = false := by
  rw [← Bool.not_eq_true, beq_zero_iff, pos_iff.mp h]
  simp

/-- The two zeros are the doubles that count as zero. -/
theorem eq_zero_of_beq (h : (x == 0) = true) : x = 0 ∨ x = -0 := by
  obtain ⟨-, -, heq | ⟨heq, -⟩ | ⟨heq, -⟩⟩ := Float.beq_iff_ne_nan_and_eq.mp h
  · exact .inl heq
  · exact .inl heq
  · exact .inr heq

end DocIndex.Decimal
