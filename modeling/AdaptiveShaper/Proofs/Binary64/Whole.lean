import AdaptiveShaper.Proofs.Binary64.Scaling

/-!
# Whole numbers

Each whole number up to `2^53` has one normal form, with a mantissa of 53 bits and an exponent
between -52 and 1, to which it is rounded however it is written. So sums and differences of whole
numbers are exact as long as they stay in this range. Equations count in units of `2^-52`.
-/

namespace AdaptiveShaper
namespace Binary64

open Float.Model (UnpackedFloat Format totalExponent)
open Float.Model.UnpackedFloat

variable {n a b m k M : Nat} {e f g : Int}

/-! ## Normal forms -/

/-- The mantissa and the exponent of a positive whole number. -/
structure NormalForm (n m : Nat) (e : Int) : Prop where
  le_mantissa : 0x10_0000_0000_0000 ≤ m
  mantissa_lt : m < 0x20_0000_0000_0000
  le_exponent : -52 ≤ e
  exponent_le : e ≤ 1
  mantissa_mul : m * 2 ^ (e + 52).toNat = n * 2 ^ 52

theorem NormalForm.mantissa_pos (h : NormalForm n m e) : 0 < m := by
  have hlo := h.le_mantissa
  omega

theorem zero_or_normalForm (hn : n ≤ 2 ^ 53) : n = 0 ∨ ∃ m e, NormalForm n m e := by
  rcases hn.lt_or_eq with hlt | rfl
  · rcases Nat.eq_zero_or_pos n with hzero | hpos
    · exact .inl hzero
    · have hne := Nat.ne_of_gt hpos
      have hlog : n.log2 < 53 := (Nat.log2_lt hne).mpr hlt
      have hbits : n.log2 + (52 - n.log2) = 52 := by omega
      have hmore : n.log2 + 1 + (52 - n.log2) = 53 := by omega
      have hlow : 2 ^ n.log2 * 2 ^ (52 - n.log2) = 0x10_0000_0000_0000 := by
        rw [← pow_add, hbits]
        rfl
      have hhigh : 2 ^ (n.log2 + 1) * 2 ^ (52 - n.log2) = 0x20_0000_0000_0000 := by
        rw [← pow_add, hmore]
        rfl
      have hexponent : ((n.log2 : Int) - 52 + 52).toNat = n.log2 := by omega
      refine .inr ⟨n * 2 ^ (52 - n.log2), n.log2 - 52, ?_, ?_, by omega, by omega, ?_⟩
      · rw [← hlow]
        exact Nat.mul_le_mul_right _ (Nat.log2_self_le hne)
      · rw [← hhigh]
        exact Nat.mul_lt_mul_of_pos_right Nat.lt_log2_self (by positivity)
      · rw [hexponent, mul_assoc, ← pow_add, Nat.add_comm, hbits]
  · exact .inr ⟨2 ^ 52, 1, by decide, by decide, by decide, by decide, by decide⟩

theorem NormalForm.shifted (h : NormalForm n m e) (hg : -52 ≤ g) (hge : g ≤ e) :
    m * 2 ^ (e - g).toNat * 2 ^ (g + 52).toNat = n * 2 ^ 52 := by
  have hsplit : (e - g).toNat + (g + 52).toNat = (e + 52).toNat := by omega
  rw [mul_assoc, ← pow_add, hsplit, h.mantissa_mul]

/-- Of two ways to write a number, the one with the lesser exponent has the longer mantissa. -/
theorem mantissa_mul_eq (he : -52 ≤ e) (hef : e ≤ f)
    (h : M * 2 ^ (f + 52).toNat = m * 2 ^ (e + 52).toNat) : M * 2 ^ (f - e).toNat = m := by
  have hsplit : (f + 52).toNat = (f - e).toNat + (e + 52).toNat := by omega
  rw [hsplit, pow_add, ← mul_assoc] at h
  exact Nat.eq_of_mul_eq_mul_right (by positivity) h

/-! ## Rounding -/

/-- However a whole number is written, it is rounded to its normal form. -/
theorem NormalForm.round_eq (h : NormalForm n m e) (hf : -52 ≤ f)
    (hM : M * 2 ^ (f + 52).toNat = n * 2 ^ 52) (s : Sign) :
    UnpackedFloat.round Format.binary64 s M f = .finite s m e h.mantissa_pos := by
  have hlo := h.le_exponent
  rw [← h.mantissa_mul] at hM
  have hMpos : M ≠ 0 := by
    rintro rfl
    have hpos : 0 < m * 2 ^ (e + 52).toNat := Nat.mul_pos h.mantissa_pos (by positivity)
    omega
  have hlog := congrArg Nat.log2 hM
  rw [log2_mul_two_pow hMpos, log2_mul_two_pow (Nat.ne_of_gt h.mantissa_pos),
    log2_normal h.le_mantissa h.mantissa_lt] at hlog
  have hshift : M * 2 ^ (f - e).toNat = m * 2 ^ (e - f).toNat := by
    rcases Int.le_total e f with hle | hle
    · rw [Int.toNat_eq_zero.mpr (Int.sub_nonpos_of_le hle), pow_zero, mul_one]
      exact mantissa_mul_eq hlo hle hM
    · rw [Int.toNat_eq_zero.mpr (Int.sub_nonpos_of_le hle), pow_zero, mul_one]
      exact (mantissa_mul_eq hf hle hM.symm).symm
  have hexponent : f - (f - e).toNat = e - (e - f).toNat := by omega
  have htarget : Format.binary64.targetExponent (totalExponent M f) = e :=
    targetExponent_eq (by omega) (by omega)
  simp only [UnpackedFloat.round, decreaseExponent, htarget, Nat.shiftLeft_eq, hshift, hexponent]
  exact roundWithAccuracy_exact s h.le_mantissa h.mantissa_lt (by omega) _

theorem NormalForm.normalize_eq (h : NormalForm n m e) (hf : -52 ≤ f)
    (hM : M * 2 ^ (f + 52).toNat = n * 2 ^ 52) :
    UnpackedFloat.normalize Format.binary64 M f .positive =
      .finite .positive m e h.mantissa_pos := by
  have hMpos : 0 < M := by
    have hpos : 0 < M * 2 ^ (f + 52).toNat := by
      rw [hM, ← h.mantissa_mul]
      exact Nat.mul_pos h.mantissa_pos (by positivity)
    exact Nat.pos_of_mul_pos_right hpos
  unfold UnpackedFloat.normalize
  rw [Int.compare_eq_gt.mpr (by omega)]
  exact h.round_eq hf hM .positive

theorem NormalForm.ofNat_eq (h : NormalForm n m e) :
    UnpackedFloat.ofNat Format.binary64 n = .finite .positive m e h.mantissa_pos :=
  h.normalize_eq (by decide) rfl

theorem normalize_eq_ofNat (hn : n ≤ 2 ^ 53) (hf : -52 ≤ f)
    (hM : M * 2 ^ (f + 52).toNat = n * 2 ^ 52) :
    UnpackedFloat.normalize Format.binary64 M f .positive =
      UnpackedFloat.ofNat Format.binary64 n := by
  obtain rfl | ⟨m, e, h⟩ := zero_or_normalForm hn
  · rw [Nat.zero_mul] at hM
    obtain rfl := (Nat.mul_eq_zero.mp hM).resolve_right (Nat.ne_of_gt (by positivity))
    rfl
  · rw [h.normalize_eq hf hM, h.ofNat_eq]

theorem unpack_pack_ofNat (hn : n ≤ 2 ^ 53) :
    unpack Format.binary64 (pack Format.binary64 (UnpackedFloat.ofNat Format.binary64 n)) =
      UnpackedFloat.ofNat Format.binary64 n := by
  obtain rfl | ⟨m, e, h⟩ := zero_or_normalForm hn
  · rfl
  · have hlo := h.le_exponent
    have hhi := h.exponent_le
    rw [h.ofNat_eq]
    exact unpack_pack_normal .positive h.le_mantissa h.mantissa_lt (by omega) (by omega)

/-! ## Sums and differences -/

theorem add_ofNat (h : a + b ≤ 2 ^ 53) :
    UnpackedFloat.add Format.binary64 (UnpackedFloat.ofNat Format.binary64 a)
      (UnpackedFloat.ofNat Format.binary64 b) = UnpackedFloat.ofNat Format.binary64 (a + b) := by
  obtain rfl | ⟨m, e, ha⟩ := zero_or_normalForm (Nat.le_of_add_right_le h)
  · rw [Nat.zero_add]
    obtain rfl | ⟨k, f, hb⟩ := zero_or_normalForm (Nat.le_of_add_left_le h)
    · rfl
    · rw [hb.ofNat_eq]
      rfl
  · obtain rfl | ⟨k, f, hb⟩ := zero_or_normalForm (Nat.le_of_add_left_le h)
    · rw [Nat.add_zero, ha.ofNat_eq]
      rfl
    · have he := ha.le_exponent
      have hf := hb.le_exponent
      rw [ha.ofNat_eq, hb.ofNat_eq]
      simp only [UnpackedFloat.add, decreaseExponent, Nat.shiftLeft_eq, Sign.apply, ← Nat.cast_add]
      refine normalize_eq_ofNat h (by omega) ?_
      rw [Nat.add_mul, ha.shifted (by omega) (by omega), hb.shifted (by omega) (by omega),
        Nat.add_mul]

theorem sub_ofNat (hba : b ≤ a) (ha : a ≤ 2 ^ 53) :
    UnpackedFloat.sub Format.binary64 (UnpackedFloat.ofNat Format.binary64 a)
      (UnpackedFloat.ofNat Format.binary64 b) = UnpackedFloat.ofNat Format.binary64 (a - b) := by
  obtain rfl | ⟨m, e, hleft⟩ := zero_or_normalForm ha
  · obtain rfl := Nat.le_zero.mp hba
    rfl
  · obtain rfl | ⟨k, f, hright⟩ := zero_or_normalForm (hba.trans ha)
    · rw [Nat.sub_zero, hleft.ofNat_eq]
      rfl
    · have he := hleft.le_exponent
      have hf := hright.le_exponent
      have hminuend := hleft.shifted (g := min e f) (by omega) (by omega)
      have hsubtrahend := hright.shifted (g := min e f) (by omega) (by omega)
      have hle : k * 2 ^ (f - min e f).toNat ≤ m * 2 ^ (e - min e f).toNat := by
        refine Nat.le_of_mul_le_mul_right (c := 2 ^ (min e f + 52).toNat) ?_ (by positivity)
        rw [hminuend, hsubtrahend]
        exact Nat.mul_le_mul_right _ hba
      rw [hleft.ofNat_eq, hright.ofNat_eq]
      simp only [UnpackedFloat.sub, decreaseExponent, Nat.shiftLeft_eq, Sign.apply,
        ← Nat.cast_sub hle]
      refine normalize_eq_ofNat (by omega) (by omega) ?_
      rw [Nat.sub_mul, hminuend, hsubtrahend, Nat.sub_mul]

/-! ## Conversions -/

theorem unpack_toFloat {n : UInt64} (hn : n.toNat ≤ 2 ^ 53) :
    n.toFloat.toModel.unpack = UnpackedFloat.ofNat Format.binary64 n.toNat :=
  unpack_pack_ofNat hn

theorem mul_ofNat_one (hn : n ≤ 2 ^ 53) :
    UnpackedFloat.mul Format.binary64 (UnpackedFloat.ofNat Format.binary64 n)
      (.finite .positive 0x10_0000_0000_0000 (-52) (by decide)) =
        UnpackedFloat.ofNat Format.binary64 n := by
  obtain rfl | ⟨m, e, h⟩ := zero_or_normalForm hn
  · rfl
  · have hlo := h.le_exponent
    rw [h.ofNat_eq]
    exact roundWithAccuracy_exact .positive h.le_mantissa h.mantissa_lt (by omega) 52

theorem ofNat_eq_pack (hn : n ≤ 2 ^ 53) :
    Float.ofNat n = .ofModel (.pack (UnpackedFloat.ofNat Format.binary64 n)) := by
  rcases hn.lt_or_eq with hlt | rfl
  · have hword : n.toUInt64.toNat = n := UInt64.toNat_ofNat_of_lt' (hlt.trans (by decide))
    have hexact : n.toUInt64.toFloat.toModel.unpack = UnpackedFloat.ofNat Format.binary64 n := by
      rw [unpack_toFloat (by omega), hword]
    change Float.ofScientific n false 0 = _
    unfold Float.ofScientific
    rw [dif_pos ⟨hlt, Nat.zero_le 22⟩]
    -- one is the power of ten for no decimal places
    change n.toUInt64.toFloat * Float.ofBits 0x3ff0_0000_0000_0000 = _
    change Float.ofModel (.pack (UnpackedFloat.mul Format.binary64 n.toUInt64.toFloat.toModel.unpack
      (.finite .positive 0x10_0000_0000_0000 (-52) (by decide)))) = _
    rw [hexact, mul_ofNat_one hn]
  · rfl

theorem zero_eq_ofNat : 0.0 = Float.ofNat 0 := rfl

theorem unpack_ofNat (hn : n ≤ 2 ^ 53) :
    (Float.ofNat n).toModel.unpack = UnpackedFloat.ofNat Format.binary64 n := by
  rw [ofNat_eq_pack hn]
  exact unpack_pack_ofNat hn

theorem toFloat_eq_ofNat {n : UInt64} (hn : n.toNat ≤ 2 ^ 53) : n.toFloat = Float.ofNat n.toNat :=
  (ofNat_eq_pack hn).symm

theorem ofNat_add_ofNat (h : a + b ≤ 2 ^ 53) :
    Float.ofNat a + Float.ofNat b = Float.ofNat (a + b) := by
  change Float.ofModel (.pack (UnpackedFloat.add Format.binary64 (Float.ofNat a).toModel.unpack
    (Float.ofNat b).toModel.unpack)) = _
  rw [unpack_ofNat (by omega), unpack_ofNat (by omega), add_ofNat h, ofNat_eq_pack h]

theorem ofNat_sub_ofNat (hba : b ≤ a) (ha : a ≤ 2 ^ 53) :
    Float.ofNat a - Float.ofNat b = Float.ofNat (a - b) := by
  change Float.ofModel (.pack (UnpackedFloat.sub Format.binary64 (Float.ofNat a).toModel.unpack
    (Float.ofNat b).toModel.unpack)) = _
  rw [unpack_ofNat ha, unpack_ofNat (by omega), sub_ofNat hba ha, ofNat_eq_pack (by omega)]

/-- Added to the negative zero, a whole number stays what it is, zero included. -/
theorem negZero_add_ofNat (hn : n ≤ 2 ^ 53) : -0.0 + Float.ofNat n = Float.ofNat n := by
  change Float.ofModel (.pack (UnpackedFloat.add Format.binary64 (.zero .negative)
    (Float.ofNat n).toModel.unpack)) = _
  rw [unpack_ofNat hn, ofNat_eq_pack hn]
  obtain rfl | ⟨m, e, h⟩ := zero_or_normalForm hn
  · rfl
  · rw [h.ofNat_eq]
    rfl

/-! ## Real values -/

theorem isFinite_ofNat (hn : n ≤ 2 ^ 53) : (Float.ofNat n).isFinite = true := by
  change (Float.ofNat n).toModel.unpack.isFinite = true
  rw [unpack_ofNat hn]
  obtain rfl | ⟨m, e, h⟩ := zero_or_normalForm hn
  · rfl
  · rw [h.ofNat_eq]
    rfl

theorem toReal_ofNat (hn : n ≤ 2 ^ 53) : toReal (Float.ofNat n) = n := by
  rw [toReal, unpack_ofNat hn]
  obtain rfl | ⟨m, e, h⟩ := zero_or_normalForm hn
  · exact Nat.cast_zero.symm
  · have hexponent : ((e + 52).toNat : Int) = e + 52 := Int.toNat_of_nonneg (by
      have hlo := h.le_exponent
      omega)
    have hvalue : (m * 2 ^ (e + 52) : ℝ) = n * 2 ^ 52 := by
      rw [← hexponent, zpow_natCast]
      exact_mod_cast h.mantissa_mul
    rw [h.ofNat_eq]
    change (m * 2 ^ e : ℝ) = n
    rw [zpow_add₀ two_ne_zero, ← mul_assoc] at hvalue
    exact mul_right_cancel₀ (by positivity) hvalue

end Binary64
end AdaptiveShaper
