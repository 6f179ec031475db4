import Mathlib

/-!
# The numbers that single-precision floats stand for

A finite float is a whole number of at most 24 binary digits times a power of two, and where the
digits are fewer the power is the least there is. A product is rounded to such a number; here it is
shown that this changes nothing where the product of the numbers is itself the number of some float.
-/

namespace Shaderbox

open Float.Model (Format UnpackedFloat totalExponent)
open Float.Model.UnpackedFloat

/-- The number that a sign, a mantissa and an exponent stand for. -/
def numberOf (sign : Sign) (mantissa : ℕ) (exponent : ℤ) : ℚ :=
  (sign.apply mantissa : ℤ) * 2 ^ exponent

/-- The number that an unpacked float stands for, if it is finite. -/
def numberOf? : UnpackedFloat → Option ℚ
  | .infinity _ | .notANumber => none
  | .zero _ => some 0
  | .finite sign mantissa exponent _ => some (numberOf sign mantissa exponent)

/-- The number that a float stands for, if it is finite. -/
def floatNumber? (x : Float32) : Option ℚ :=
  numberOf? x.toModel.unpack

/-- The mantissas and exponents that single precision has room for. -/
structure Fits (mantissa : ℕ) (exponent : ℤ) : Prop where
  pos : 0 < mantissa
  digits : mantissa < 2 ^ 24
  least : -149 ≤ exponent
  most : exponent ≤ 104
  full : 2 ^ 23 ≤ mantissa ∨ exponent = -149

section Written

variable {mantissa : ℕ} {exponent : ℤ}

theorem Fits.log2_lt (h : Fits mantissa exponent) : mantissa.log2 < 24 :=
  (Nat.log2_lt h.pos.ne').mpr h.digits

theorem toNat_one_append {width : ℕ} (digits : BitVec width) :
    (1#1 ++ digits).toNat = 2 ^ width + digits.toNat := by
  rw [BitVec.toNat_append, ← Nat.shiftLeft_add_eq_or_of_lt digits.isLt]
  simp [Nat.shiftLeft_eq]

/-- What is read from bits fits. -/
theorem fits_of_unpack {bits : BitVec Format.binary32.numBits} {sign : Sign}
    {hpos : 0 < mantissa} (h : unpack Format.binary32 bits = .finite sign mantissa exponent hpos) :
    Fits mantissa exponent := by
  have hdigits : (unpackMantissa bits).toNat < 2 ^ 23 := (unpackMantissa bits).isLt
  have hexponent : (unpackExponent bits).toNat < 2 ^ 8 := (unpackExponent bits).isLt
  unfold UnpackedFloat.unpack at h
  dsimp only at h
  split_ifs at h with hinf hnan hzero hdigits0
  · cases h
    rw [hzero]
    exact ⟨hpos, by omega, by decide, by decide, .inr (by decide)⟩
  · cases h
    rw [toNat_one_append]
    have hne : (unpackExponent bits).toNat ≠ 0 := fun h => hzero (BitVec.eq_of_toNat_eq h)
    have hlast : (unpackExponent bits).toNat ≠ 255 := fun h => hinf (BitVec.eq_of_toNat_eq h)
    constructor <;> simp only [Format.exponentBias] <;> norm_num <;> omega

/-- A float with all its digits is read with the first of them, which is not written. -/
theorem unpack_full (sign : Sign) {power : BitVec 8} {digits : BitVec 23} (hsome : power ≠ 0#8)
    (hfinite : power ≠ -1#8) :
    unpack Format.binary32 (packComponents Format.binary32 sign power digits) =
      .finite sign (2 ^ 23 + digits.toNat) (power.toNat - 150)
        (Nat.add_pos_left (Nat.two_pow_pos 23) _) := by
  simp only [UnpackedFloat.unpack, unpackMantissa_packComponents, unpackExponent_packComponents,
    unpackSign_packComponents, Sign.ofBitVec_toBitVec, hsome, hfinite, if_false, toNat_one_append]
  congr

/-- A float with fewer digits is read with the least exponent. -/
theorem unpack_least (sign : Sign) {digits : BitVec 23} (hdigits : digits ≠ 0#23) :
    unpack Format.binary32 (packComponents Format.binary32 sign 0#8 digits) =
      .finite sign digits.toNat (-149)
        (Nat.pos_of_ne_zero fun h => hdigits (BitVec.eq_of_toNat_eq h)) := by
  have hfinite : 0#8 ≠ -1#8 := by decide
  simp only [UnpackedFloat.unpack, unpackMantissa_packComponents, unpackExponent_packComponents,
    unpackSign_packComponents, Sign.ofBitVec_toBitVec, hfinite, hdigits, if_false, if_true,
    dif_neg, not_false_eq_true]
  congr

/-- What fits is read back from the bits that it is written to. -/
theorem Fits.unpack_pack (h : Fits mantissa exponent) (sign : Sign) :
    unpack Format.binary32 (pack Format.binary32 (.finite sign mantissa exponent h.pos)) =
      .finite sign mantissa exponent h.pos := by
  have hlog := h.log2_lt
  obtain ⟨hpos, hdigits, hleast, hmost, hfull⟩ := h
  obtain ⟨power, hpower⟩ : ∃ power : ℕ, exponent + 127 + 23 = power :=
    ⟨_, (Int.toNat_of_nonneg (by omega)).symm⟩
  have hfinite : ¬ 2 ^ 8 ≤ power + 1 := by omega
  unfold pack
  simp only [show exponent + (Format.binary32.exponentBias : ℤ) + (23 : ℕ) = power from hpower,
    Int.toNat_natCast, hfinite, if_false]
  by_cases hmantissa : 2 ^ 23 ≤ mantissa
  · have hlog : mantissa.log2 + 1 = Format.binary32.mantissaBits := by
      have := (Nat.le_log2 hpos.ne').mpr hmantissa
      change _ = 24
      omega
    have hbits : (BitVec.ofNat 8 power).toNat = power := Nat.mod_eq_of_lt (by omega)
    have hrest : (BitVec.ofNat 23 mantissa).toNat = mantissa - 2 ^ 23 := by
      change mantissa % 2 ^ 23 = _
      omega
    rw [if_pos hlog, unpack_full sign]
    · congr 1 <;> omega
    · rw [← BitVec.toNat_ne_iff_ne, hbits]
      simp
      omega
    · rw [← BitVec.toNat_ne_iff_ne, hbits]
      simp
      omega
  · have hlog : mantissa.log2 + 1 ≠ Format.binary32.mantissaBits := by
      have := (Nat.log2_lt hpos.ne').mpr (not_le.mp hmantissa)
      change _ ≠ 24
      omega
    have hwhole : (BitVec.ofNat 23 mantissa).toNat = mantissa :=
      Nat.mod_eq_of_lt (not_le.mp hmantissa)
    rw [if_neg hlog, unpack_least sign]
    · congr 1
      omega
    · rw [← BitVec.toNat_ne_iff_ne, hwhole]
      exact hpos.ne'

end Written

section Rounded

variable {mantissa : ℕ} {exponent : ℤ}

/-- Rounding aims at the exponent that what fits has already. -/
theorem Fits.targetExponent_eq (h : Fits mantissa exponent) :
    Format.binary32.targetExponent (totalExponent mantissa exponent) = exponent := by
  have hlog := h.log2_lt
  have hleast := h.least
  simp only [Format.targetExponent, totalExponent, Format.mantissaBits, Format.minExponent]
  rcases h.full with hfull | hleast
  · have := (Nat.le_log2 h.pos.ne').mpr hfull
    norm_num
    omega
  · norm_num
    omega

/-- Digits that are zero are shifted out without a trace. -/
theorem shiftRight_mul_two_pow (digits count : ℕ) :
    (⟨digits * 2 ^ count, false, false⟩ : ExtendedMantissa) >>> count = ⟨digits, false, false⟩ := by
  induction count generalizing digits with
  | zero => simp [HShiftRight.hShiftRight, Nat.repeat]
  | succ count ih =>
    change ExtendedMantissa.shiftRightOne
      ((⟨digits * 2 ^ (count + 1), false, false⟩ : ExtendedMantissa) >>> count) = _
    rw [Nat.pow_succ', ← Nat.mul_assoc, ih]
    simp [ExtendedMantissa.shiftRightOne]

theorem log2_mul_two_pow (h : mantissa ≠ 0) (count : ℕ) :
    (mantissa * 2 ^ count).log2 = mantissa.log2 + count := by
  induction count with
  | zero => simp
  | succ count ih =>
    rw [Nat.pow_succ', Nat.mul_left_comm, Nat.log2_two_mul (by positivity), ih, Nat.add_assoc]

/-- Where rounding aims at the exponent of what fits, that is what it leaves. -/
theorem Fits.shiftToTargetExponent_eq (h : Fits mantissa exponent) (count : ℕ) :
    shiftToTargetExponent Format.binary32 (mantissa * 2 ^ count) (exponent - count) .exact =
      (⟨mantissa, false, false⟩, exponent) := by
  have htotal : totalExponent (mantissa * 2 ^ count) (exponent - count) =
      totalExponent mantissa exponent := by
    unfold totalExponent
    rw [log2_mul_two_pow h.pos.ne']
    push_cast
    ring
  have hcount : (exponent - (exponent - count)).toNat = count := by omega
  unfold shiftToTargetExponent shiftToExponent
  simp only [htotal, h.targetExponent_eq, hcount, ExtendedMantissa.ofMantissaAndAccuracy,
    shiftRight_mul_two_pow]
  congr 1
  omega

/-- What stands for the same number as what fits is rounded to that. -/
theorem Fits.roundWithAccuracy_eq (h : Fits mantissa exponent) (sign : Sign) (count : ℕ) :
    roundWithAccuracy Format.binary32 sign (mantissa * 2 ^ count) (exponent - count) .exact =
      .finite sign mantissa exponent h.pos := by
  have hagain := h.shiftToTargetExponent_eq 0
  simp at hagain
  unfold roundWithAccuracy
  simp [h.shiftToTargetExponent_eq, ExtendedMantissa.roundedMantissa, ExtendedMantissa.accuracy,
    Accuracy.roundToNearestEven, hagain, h.pos.ne']

end Rounded

section Multiplied

variable {x y z : Float32} {p q : ℚ}

theorem abs_numberOf (sign : Sign) (mantissa : ℕ) (exponent : ℤ) :
    |numberOf sign mantissa exponent| = mantissa * 2 ^ exponent := by
  have hpower : (0 : ℚ) < 2 ^ exponent := zpow_pos two_pos exponent
  rw [numberOf, abs_mul, abs_of_pos hpower]
  cases sign <;> simp [Sign.apply]

theorem numberOf_congr (sign : Sign) {m n : ℕ} {e f : ℤ} (h : (m : ℚ) * 2 ^ e = n * 2 ^ f) :
    numberOf sign m e = numberOf sign n f := by
  cases sign <;> simp [numberOf, Sign.apply, h]

theorem numberOf_mul (s₁ s₂ : Sign) (m₁ m₂ : ℕ) (e₁ e₂ : ℤ) :
    numberOf (s₁ * s₂) (m₁ * m₂) (e₁ + e₂) = numberOf s₁ m₁ e₁ * numberOf s₂ m₂ e₂ := by
  have hsigned : (s₁ * s₂).apply ((m₁ * m₂ : ℕ) : ℤ) = s₁.apply m₁ * s₂.apply m₂ := by
    rw [Nat.cast_mul]
    cases s₁ <;> cases s₂
    · exact (neg_mul_neg _ _).symm
    · exact (neg_mul _ _).symm
    · exact (mul_neg _ _).symm
    · rfl
  unfold numberOf
  rw [hsigned, zpow_add₀ two_ne_zero]
  push_cast
  ring

theorem Fits.numberOf_ne_zero {mantissa : ℕ} {exponent : ℤ} (h : Fits mantissa exponent)
    (sign : Sign) : numberOf sign mantissa exponent ≠ 0 := by
  have hpower : (0 : ℚ) < 2 ^ exponent := zpow_pos two_pos exponent
  rw [← abs_pos, abs_numberOf]
  exact mul_pos (Nat.cast_pos.mpr h.pos) hpower

/-- A float that stands for a number is zero, or has a mantissa and an exponent that fit. -/
theorem floatNumber?_eq_some (h : floatNumber? x = some p) :
    (∃ sign, x.toModel.unpack = .zero sign ∧ p = 0) ∨
      ∃ sign mantissa exponent, ∃ h : Fits mantissa exponent,
        x.toModel.unpack = .finite sign mantissa exponent h.pos ∧
          p = numberOf sign mantissa exponent := by
  unfold floatNumber? at h
  cases hx : x.toModel.unpack with
  | infinity sign => simp [hx, numberOf?] at h
  | notANumber => simp [hx, numberOf?] at h
  | zero sign =>
    rw [hx] at h
    exact .inl ⟨sign, rfl, (Option.some_inj.mp h).symm⟩
  | finite sign mantissa exponent hpos =>
    rw [hx] at h
    exact .inr ⟨sign, mantissa, exponent, fits_of_unpack hx, rfl, (Option.some_inj.mp h).symm⟩

/-- Digits at a higher exponent stand for the same number with zeros behind them. -/
theorem mul_two_pow_eq {m n count : ℕ} {exponent : ℤ}
    (h : (m : ℚ) * 2 ^ (exponent + count) = n * 2 ^ exponent) : m * 2 ^ count = n := by
  have hpower : (2 : ℚ) ^ exponent ≠ 0 := zpow_ne_zero exponent two_ne_zero
  rw [zpow_add₀ two_ne_zero, zpow_natCast, mul_left_comm, mul_comm (n : ℚ)] at h
  exact_mod_cast mul_left_cancel₀ hpower h

/-- A product that fits has the digits that fit, and zeros behind them. -/
theorem Fits.exists_zeros {m₁ m₂ m₃ : ℕ} {e₁ e₂ e₃ : ℤ} (h₁ : Fits m₁ e₁) (h₂ : Fits m₂ e₂)
    (h₃ : Fits m₃ e₃) (h : ((m₁ * m₂ : ℕ) : ℚ) * 2 ^ (e₁ + e₂) = m₃ * 2 ^ e₃) :
    ∃ count : ℕ, m₁ * m₂ = m₃ * 2 ^ count ∧ e₁ + e₂ = e₃ - count := by
  have hle : e₁ + e₂ ≤ e₃ := by
    by_contra hlt
    obtain ⟨count, hcount⟩ : ∃ count : ℕ, e₁ + e₂ = e₃ + (count + 1 : ℕ) :=
      ⟨(e₁ + e₂ - e₃ - 1).toNat, by omega⟩
    rw [hcount] at h
    have hdigits : 2 ^ 24 ≤ m₃ := calc
      2 ^ 24 = 2 ^ 23 * 2 ^ 1 := by norm_num
      _ ≤ m₁ * m₂ * 2 ^ (count + 1) := by
        have hone : 2 ^ 23 ≤ m₁ ∨ 2 ^ 23 ≤ m₂ := by
          have := h₃.least
          rcases h₁.full with hfull | hleast₁
          · exact .inl hfull
          · exact .inr (h₂.full.resolve_right fun hleast₂ => by omega)
        refine Nat.mul_le_mul ?_ (Nat.pow_le_pow_right two_pos (by omega))
        rcases hone with hone | hone
        · exact hone.trans (Nat.le_mul_of_pos_right m₁ h₂.pos)
        · exact hone.trans (Nat.le_mul_of_pos_left m₂ h₁.pos)
      _ = m₃ := mul_two_pow_eq h
    exact absurd h₃.digits (not_lt.mpr hdigits)
  obtain ⟨count, hcount⟩ : ∃ count : ℕ, e₃ = e₁ + e₂ + count := ⟨(e₃ - (e₁ + e₂)).toNat, by omega⟩
  rw [hcount] at h
  exact ⟨count, (mul_two_pow_eq h.symm).symm, by omega⟩

/-- A product is rounded to what fits where that stands for the same number. -/
theorem Fits.mul {m₁ m₂ m₃ : ℕ} {e₁ e₂ e₃ : ℤ} {s₁ s₂ s₃ : Sign} (h₁ : Fits m₁ e₁)
    (h₂ : Fits m₂ e₂) (h₃ : Fits m₃ e₃)
    (h : numberOf s₁ m₁ e₁ * numberOf s₂ m₂ e₂ = numberOf s₃ m₃ e₃) :
    numberOf? (unpack Format.binary32 (pack Format.binary32
      (roundWithAccuracy Format.binary32 (s₁ * s₂) (m₁ * m₂) (e₁ + e₂) .exact))) =
      some (numberOf s₃ m₃ e₃) := by
  have hsize : ((m₁ * m₂ : ℕ) : ℚ) * 2 ^ (e₁ + e₂) = m₃ * 2 ^ e₃ := by
    rw [← abs_numberOf (s₁ * s₂), numberOf_mul, h, abs_numberOf]
  obtain ⟨count, hdigits, hpower⟩ := h₁.exists_zeros h₂ h₃ hsize
  rw [hdigits, hpower, h₃.roundWithAccuracy_eq, h₃.unpack_pack, numberOf?, ← h, ← numberOf_mul,
    numberOf_congr _ hsize]

/-- A product of floats is exact where some float stands for the product of their numbers. -/
theorem floatNumber?_mul (hx : floatNumber? x = some p) (hy : floatNumber? y = some q)
    (hz : floatNumber? z = some (p * q)) : floatNumber? (x * y) = some (p * q) := by
  have hproduct : floatNumber? (x * y) = numberOf? (unpack Format.binary32 (pack Format.binary32
      (mul Format.binary32 x.toModel.unpack y.toModel.unpack))) := rfl
  have hzero (sign : Sign) :
      numberOf? (unpack Format.binary32 (pack Format.binary32 (.zero sign))) = some 0 := by
    rw [pack, unpack_packedZero, numberOf?]
  rw [hproduct]
  obtain ⟨s₁, hux, rfl⟩ | ⟨s₁, m₁, e₁, h₁, hux, rfl⟩ := floatNumber?_eq_some hx <;>
  obtain ⟨s₂, huy, rfl⟩ | ⟨s₂, m₂, e₂, h₂, huy, rfl⟩ := floatNumber?_eq_some hy <;>
  simp only [hux, huy, mul, hzero, zero_mul, mul_zero]
  obtain ⟨s₃, -, hnothing⟩ | ⟨s₃, m₃, e₃, h₃, -, hsame⟩ := floatNumber?_eq_some hz
  · exact absurd hnothing (mul_ne_zero (h₁.numberOf_ne_zero s₁) (h₂.numberOf_ne_zero s₂))
  · rw [h₁.mul h₂ h₃ hsame, hsame]

end Multiplied

end Shaderbox
