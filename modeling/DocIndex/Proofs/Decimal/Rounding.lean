import DocIndex.Decimal.Reading
import DocIndex.Proofs.Decimal.Sides

/-! # The sign of rounded numbers

A whole number is made a double by rounding. Rounding shifts bits out of a mantissa, but never
all of them unless the number is less than the least double, so a positive whole number stays
above zero however large it is.
-/

namespace DocIndex.Decimal

open Float.Model

/-! ## Shifted mantissas -/

theorem mantissa_shiftRight (m : UnpackedFloat.ExtendedMantissa) (k : Nat) :
    (m >>> k).mantissa = m.mantissa / 2 ^ k := by
  change (Nat.repeat UnpackedFloat.ExtendedMantissa.shiftRightOne k m).mantissa = _
  induction k with
  | zero => simp [Nat.repeat]
  | succ k ih =>
      change (Nat.repeat UnpackedFloat.ExtendedMantissa.shiftRightOne k m).mantissa / 2 = _
      rw [ih, Nat.div_div_eq_div_mul, Nat.pow_succ]

theorem roundedMantissa_bounds (m : UnpackedFloat.ExtendedMantissa) :
    m.mantissa ≤ m.roundedMantissa ∧ m.roundedMantissa ≤ m.mantissa + 1 := by
  obtain ⟨mantissa, roundBit, stickyBit⟩ := m
  cases roundBit <;> cases stickyBit <;>
    simp [UnpackedFloat.ExtendedMantissa.roundedMantissa,
      UnpackedFloat.ExtendedMantissa.accuracy, UnpackedFloat.Accuracy.roundToNearestEven]
  omega

theorem log2_div_two_pow (m k : Nat) : (m / 2 ^ k).log2 = m.log2 - k := by
  rw [Nat.log2_eq_log_two, Nat.log2_eq_log_two, Nat.log_div_base_pow]

theorem log2_shiftLeft {m : Nat} (hm : 0 < m) (k : Nat) : (m <<< k).log2 = m.log2 + k := by
  simp only [Nat.log2_eq_log_two]
  induction k with
  | zero => rfl
  | succ k ih =>
      have hne : m <<< k ≠ 0 := by simp [hm.ne']
      rw [Nat.shiftLeft_succ, Nat.mul_comm, Nat.log_mul_base (by decide) hne, ih, Nat.add_assoc]

theorem shiftLeft_pos {m : Nat} (hm : 0 < m) (k : Nat) : 0 < m <<< k := by
  simp [Nat.pos_iff_ne_zero, hm.ne']

/-! ## Rounding -/

/-- The number `m · 2^e` is written with a mantissa and an exponent that doubles have. -/
structure Fits (m : Nat) (e : Int) : Prop where
  pos : 0 < m
  log2_lt : m.log2 < 53
  le : -1074 ≤ e

/-- The bits by which the mantissa of `m · 2^e` is too long. -/
def excess (m : Nat) (e : Int) : Nat :=
  (Format.binary64.targetExponent (totalExponent m e) - e).toNat

theorem excess_eq (m : Nat) (e : Int) :
    excess m e = (max ((m.log2 : Int) - 52) (-1074 - e)).toNat := by
  simp only [excess, Format.targetExponent, totalExponent, Format.mantissaBits, Format.minExponent]
  norm_num
  omega

/-- Shifting by the excess leaves something of every number that is not less than the least
double. -/
theorem fits_shifted {m : Nat} {e : Int} (hm : 0 < m) (h : -1074 ≤ m.log2 + e) :
    Fits (m / 2 ^ excess m e) (e + excess m e) := by
  have hexcess := excess_eq m e
  refine ⟨?_, ?_, by omega⟩
  · apply Nat.div_pos _ (Nat.two_pow_pos _)
    calc 2 ^ excess m e ≤ 2 ^ m.log2 := Nat.pow_le_pow_right (by decide) (by omega)
      _ ≤ m := Nat.log2_self_le hm.ne'
  · rw [log2_div_two_pow]
    omega

theorem shiftToTargetExponent_exact (m : Nat) (e : Int) :
    (UnpackedFloat.shiftToTargetExponent Format.binary64 m e .exact).1.mantissa =
        m / 2 ^ excess m e ∧
      (UnpackedFloat.shiftToTargetExponent Format.binary64 m e .exact).2 = e + excess m e :=
  ⟨mantissa_shiftRight _ _, rfl⟩

/-- Rounding shifts twice, as rounding up can make the mantissa one bit longer. Something is left
each time. -/
theorem round_fits {m : Nat} {e : Int} (s : UnpackedFloat.Sign) (hm : 0 < m)
    (h : -1074 ≤ m.log2 + e) :
    ∃ m' e', ∃ hfits : Fits m' e',
      UnpackedFloat.roundWithAccuracy Format.binary64 s m e .exact =
        .finite s m' e' hfits.pos := by
  have hfirst := fits_shifted hm h
  obtain ⟨hmantissa, hexponent⟩ := shiftToTargetExponent_exact m e
  have hround := roundedMantissa_bounds
    (UnpackedFloat.shiftToTargetExponent Format.binary64 m e .exact).1
  rw [hmantissa] at hround
  set r := (UnpackedFloat.shiftToTargetExponent Format.binary64 m e .exact).1.roundedMantissa
    with hr
  have hpos : 0 < r := hfirst.pos.trans_le hround.1
  have hle := hfirst.le
  have hsecond := fits_shifted (e := e + excess m e) hpos (by omega)
  obtain ⟨hmantissa', hexponent'⟩ := shiftToTargetExponent_exact r (e + excess m e)
  refine ⟨_, _, hsecond, ?_⟩
  simp only [UnpackedFloat.roundWithAccuracy]
  rw [← hr, hexponent, dif_neg]
  · simp only [hmantissa', hexponent']
  · rw [hmantissa']
    exact hsecond.pos.ne'

/-! ## Packing -/

/-- What doubles above zero are when they are unpacked. -/
inductive Above : UnpackedFloat → Prop
  | infinity : Above (.infinity .positive)
  | finite {m : Nat} {e : Int} (h : Fits m e) : Above (.finite .positive m e h.pos)

theorem Above.pos {x : Float} (h : Above x.toModel.unpack) : 0 < x := by
  rw [pos_iff, side]
  generalize x.toModel.unpack = u at h
  cases h <;> rfl

theorem toNat_hidden_append (v : BitVec 52) : 0 < (1#1 ++ v).toNat := by
  rw [BitVec.toNat_append]
  exact Nat.lt_of_lt_of_le (by decide) Nat.left_le_or

theorem above_unpack_normal {biased : Nat} (v : BitVec 52) (hzero : 0 < biased)
    (hlarge : biased + 1 < 2 ^ 11) :
    Above (UnpackedFloat.unpack Format.binary64
      (UnpackedFloat.packComponents Format.binary64 .positive (BitVec.ofNat 11 biased) v)) := by
  have hbiased : (BitVec.ofNat 11 biased).toNat = biased :=
    Nat.mod_eq_of_lt (Nat.lt_of_succ_lt hlarge)
  have hfinite : BitVec.ofNat 11 biased ≠ -1#11 := fun h => by
    have hall : biased = 2 ^ 11 - 1 := by rw [← hbiased, h]; rfl
    omega
  have hnonzero : BitVec.ofNat 11 biased ≠ 0#11 := fun h => by
    have hnone : biased = 0 := by rw [← hbiased, h]; rfl
    omega
  have hpos := toNat_hidden_append v
  simp only [UnpackedFloat.unpack, UnpackedFloat.unpackExponent_packComponents,
    UnpackedFloat.unpackMantissa_packComponents, UnpackedFloat.unpackSign_packComponents,
    UnpackedFloat.Sign.ofBitVec_toBitVec, if_neg hfinite, if_neg hnonzero, hbiased]
  apply Above.finite ⟨hpos, (Nat.log2_lt hpos.ne').mpr (BitVec.isLt _), ?_⟩
  simp only [Format.exponentBias]
  omega

theorem above_unpack_subnormal {v : BitVec 52} (hv : v ≠ 0#52) :
    Above (UnpackedFloat.unpack Format.binary64
      (UnpackedFloat.packComponents Format.binary64 .positive 0#11 v)) := by
  have hpos : 0 < v.toNat := by rwa [BitVec.toNat_pos, BitVec.pos_iff_ne_zero]
  have hlt := v.isLt
  simp only [UnpackedFloat.unpack, UnpackedFloat.unpackExponent_packComponents,
    UnpackedFloat.unpackMantissa_packComponents, UnpackedFloat.unpackSign_packComponents,
    UnpackedFloat.Sign.ofBitVec_toBitVec, if_neg (by decide : ¬0#11 = -1#11), dif_neg hv, if_true]
  apply Above.finite ⟨hpos, (Nat.log2_lt hpos.ne').mpr (by omega), ?_⟩
  simp [Format.exponentBias]

/-- A number that fits stays above zero when it is packed. It may be too large for a finite
double. -/
theorem above_pack {m : Nat} {e : Int} (h : Fits m e) :
    Above (Float.Model.pack (.finite .positive m e h.pos)).unpack := by
  change Above (UnpackedFloat.unpack Format.binary64
    (UnpackedFloat.pack Format.binary64 (.finite .positive m e h.pos)))
  have hle := h.le
  have hlog := h.log2_lt
  simp only [UnpackedFloat.pack]
  split
  · exact .infinity
  · rename_i hlarge
    split
    · simp only [Format.exponentBias] at hlarge ⊢
      exact above_unpack_normal _ (by omega) (by omega)
    · rename_i hsmall
      simp only [Format.mantissaBits] at hsmall
      have hlt : m < 2 ^ 52 := (Nat.log2_lt h.pos.ne').mp (by omega)
      apply above_unpack_subnormal
      intro hv
      have hzero : m = 0 := by rw [← Nat.mod_eq_of_lt hlt, ← BitVec.toNat_ofNat, hv]; rfl
      exact h.pos.ne' hzero

theorem above_round {m : Nat} {e : Int} (hm : 0 < m) (h : -1074 ≤ m.log2 + e) :
    Above (Float.Model.pack
      (UnpackedFloat.roundWithAccuracy Format.binary64 .positive m e .exact)).unpack := by
  obtain ⟨m', e', hfits, hround⟩ := round_fits .positive hm h
  rw [hround]
  exact above_pack hfits

/-! ## Whole numbers -/

theorem above_ofNat {n : Nat} (hn : 0 < n) : Above (Float.Model.ofNat n).unpack := by
  have hcompare : compare (n : Int) 0 = .gt := by
    rw [Int.compare_eq_gt]
    omega
  simp only [Float.Model.ofNat, UnpackedFloat.ofNat, UnpackedFloat.ofInt,
    UnpackedFloat.normalize, hcompare]
  apply above_round
  · exact shiftLeft_pos hn _
  · simp only [Int.toNat_natCast]
    rw [log2_shiftLeft hn]
    omega

/-- One, as it stands among the powers of ten. -/
theorem unpack_one : (Float.exactlyRepresentablePowersOfTen[0]).toModel.unpack =
    .finite .positive (1 <<< 52) (-52) (by decide) := rfl

theorem above_mul_one {x : Float} (h : Above x.toModel.unpack) :
    Above (x * Float.exactlyRepresentablePowersOfTen[0]).toModel.unpack := by
  change Above (Float.Model.pack (UnpackedFloat.mul Format.binary64 x.toModel.unpack
    (Float.exactlyRepresentablePowersOfTen[0]).toModel.unpack)).unpack
  rw [unpack_one]
  generalize x.toModel.unpack = u at h ⊢
  cases h with
  | infinity => exact .infinity
  | @finite m e h =>
      have hlog : (m * 1 <<< 52).log2 = m.log2 + 52 := by
        rw [← log2_shiftLeft h.pos, Nat.shiftLeft_eq, Nat.shiftLeft_eq, Nat.one_mul]
      have hle := h.le
      exact above_round (Nat.mul_pos h.pos (by decide)) (by omega)

theorem ofScientific_zero {n : Nat} (hn : 0 < n) :
    UnpackedFloat.ofScientific Format.binary64 n 0 =
      UnpackedFloat.roundWithAccuracy Format.binary64 .positive (n <<< 53) (-53) .exact := by
  have hlow : ¬(0 : Int) < -((2 ^ 11 : Int) + n.log2) := by omega
  simp only [UnpackedFloat.ofScientific]
  rw [dif_neg hn.ne', if_neg (by decide), if_neg hlow, if_pos (by decide)]
  simp only [UnpackedFloat.mul, Format.mantissaBits, Int.toNat_zero, Nat.pow_zero, Nat.mul_one,
    Int.add_zero]
  rfl

theorem above_ofScientific {n : Nat} (hn : 0 < n) :
    Above (Float.Model.ofScientific n 0).unpack := by
  rw [Float.Model.ofScientific, ofScientific_zero hn]
  apply above_round (shiftLeft_pos hn _)
  rw [log2_shiftLeft hn]
  omega

theorem pos_ofScientific {n : Nat} (hn : 0 < n) : 0 < Float.ofScientific n false 0 := by
  apply Above.pos
  unfold Float.ofScientific
  split
  · rename_i hsmall
    have hvalue : n.toUInt64.toNat = n :=
      UInt64.toNat_ofNat_of_lt' (hsmall.1.trans (by decide))
    have hfloat : Above n.toUInt64.toFloat.toModel.unpack := by
      change Above (Float.Model.ofNat n.toUInt64.toNat).unpack
      rw [hvalue]
      exact above_ofNat hn
    exact above_mul_one hfloat
  · exact above_ofScientific hn

theorem pos_toFloat {n : Nat} (hn : 0 < n) : 0 < toFloat n 0 := by
  unfold toFloat
  rw [if_neg hn.ne']
  dsimp only
  split
  · decide +kernel
  · rw [if_neg (by omega)]
    exact pos_ofScientific hn

/-- The least whole number beyond all doubles. It lies half a step above the largest of them. -/
def wholeLimit : Nat := Nat.pow 2 1024 - Nat.pow 2 970

theorem wholeLimit_pos : 0 < wholeLimit := by
  decide +kernel

theorem intToFloat?_eq_none_iff {n : Int} : intToFloat? n = none ↔ wholeLimit ≤ n.natAbs := by
  unfold intToFloat?
  rw [← wholeLimit]
  by_cases hlarge : wholeLimit ≤ n.natAbs
  · simp [hlarge]
  · by_cases hneg : n < 0 <;> simp [hlarge, hneg]

theorem intToFloat?_ne_none_iff {n : Int} (hn : 0 ≤ n) :
    intToFloat? n ≠ none ↔ n < wholeLimit := by
  rw [ne_eq, intToFloat?_eq_none_iff]
  omega

-- From here on the limit is a name only, as its digits are of no use in proofs.
attribute [irreducible] wholeLimit

/-- A whole number above zero becomes a double above zero. -/
theorem pos_of_intToFloat? {n : Int} {x : Float} (hn : 0 < n) (h : intToFloat? n = some x) :
    0 < x := by
  unfold intToFloat? at h
  split at h
  · cases h
  · rw [if_neg (by omega)] at h
    cases h
    exact pos_toFloat (by omega)

theorem intToFloat?_zero : intToFloat? 0 = some 0 := by
  decide +kernel

end DocIndex.Decimal
