import AdaptiveShaper.Proofs.Binary64.Reals

/-!
# Doubling

Twice a normal number keeps the mantissa and raises the exponent by one, with no rounding, until
the exponent is at its end; from there on it is infinite.
-/

namespace AdaptiveShaper
namespace Binary64

open Float.Model (UnpackedFloat Format totalExponent)
open Float.Model.UnpackedFloat

variable {m : Nat} {e : Int}

/-! ## Rounding drops no bit that is set -/

theorem shiftRight_exact (m k : Nat) :
    (ExtendedMantissa.mk (m * 2 ^ k) false false) >>> k = ⟨m, false, false⟩ := by
  induction k generalizing m with
  | zero =>
    rw [pow_zero, mul_one]
    rfl
  | succ k ih =>
    have h := ih (m * 2)
    rw [mul_assoc, ← pow_succ'] at h
    change ((⟨m * 2 ^ (k + 1), false, false⟩ : ExtendedMantissa) >>> k).shiftRightOne = _
    rw [h]
    simp [ExtendedMantissa.shiftRightOne]

theorem log2_normal (hlo : 0x10_0000_0000_0000 ≤ m) (hhi : m < 0x20_0000_0000_0000) :
    m.log2 = 52 :=
  (Nat.log2_eq_iff (by omega)).mpr ⟨hlo, hhi⟩

theorem log2_mul_two_pow (hm : m ≠ 0) (k : Nat) : (m * 2 ^ k).log2 = m.log2 + k := by
  induction k with
  | zero => rw [pow_zero, mul_one, Nat.add_zero]
  | succ k ih =>
    have hne : m * 2 ^ k ≠ 0 := Nat.mul_ne_zero hm (Nat.ne_of_gt (by positivity))
    rw [pow_succ, ← mul_assoc, Nat.mul_comm _ 2, Nat.log2_two_mul hne, ih, Nat.add_assoc]

theorem targetExponent_eq {f : Int} (hlog : m.log2 + f = 52 + e) (he : -1074 ≤ e) :
    Format.binary64.targetExponent (totalExponent m f) = e := by
  simp only [Format.targetExponent, totalExponent, Format.mantissaBits, Format.minExponent]
  omega

theorem shiftToTargetExponent_exact (hlo : 0x10_0000_0000_0000 ≤ m)
    (hhi : m < 0x20_0000_0000_0000) (he : -1074 ≤ e) (k : Nat) :
    shiftToTargetExponent Format.binary64 (m * 2 ^ k) (e - k) .exact = (⟨m, false, false⟩, e) := by
  have hlog : (m * 2 ^ k).log2 = 52 + k := by
    rw [log2_mul_two_pow (by omega), log2_normal hlo hhi]
  have htarget : Format.binary64.targetExponent (totalExponent (m * 2 ^ k) (e - k)) = e :=
    targetExponent_eq (by omega) he
  have hshift : (e - (e - k)).toNat = k := by omega
  simp only [shiftToTargetExponent, htarget, shiftToExponent, hshift,
    ExtendedMantissa.ofMantissaAndAccuracy, shiftRight_exact]
  congr 1
  omega

/-- A mantissa followed by zeros is rounded to itself. -/
theorem roundWithAccuracy_exact (s : Sign) (hlo : 0x10_0000_0000_0000 ≤ m)
    (hhi : m < 0x20_0000_0000_0000) (he : -1074 ≤ e) (k : Nat) :
    roundWithAccuracy Format.binary64 s (m * 2 ^ k) (e - k) .exact =
      .finite s m e (by omega) := by
  -- the mantissa did not grow, so the second shift is by no bit
  have hsecond := shiftToTargetExponent_exact hlo hhi he 0
  rw [pow_zero, mul_one, Nat.cast_zero, sub_zero] at hsecond
  have hm : m ≠ 0 := by omega
  rw [roundWithAccuracy, shiftToTargetExponent_exact hlo hhi he k]
  simp [ExtendedMantissa.roundedMantissa, ExtendedMantissa.accuracy, Accuracy.roundToNearestEven,
    hsecond, hm]

/-! ## Words of normal and of infinite numbers -/

theorem unpack_pack_normal (s : Sign) (hlo : 0x10_0000_0000_0000 ≤ m)
    (hhi : m < 0x20_0000_0000_0000) (he : -1074 ≤ e) (he' : e ≤ 971) :
    unpack Format.binary64 (pack Format.binary64 (.finite s m e (by omega))) =
      .finite s m e (by omega) := by
  have hbias : Format.binary64.exponentBias = 1023 := rfl
  have hones : (-1#11).toNat = 2047 := rfl
  have hfits : ¬ 2 ^ 11 ≤ (e + 1023 + 52).toNat + 1 := by omega
  have hexponent : (BitVec.ofNat 11 (e + 1023 + 52).toNat).toNat = (e + 1075).toNat := by
    rw [BitVec.toNat_ofNat, Nat.mod_eq_of_lt (by omega)]
    omega
  have hmantissa : (1#1 ++ BitVec.ofNat 52 m).toNat = m := by
    rw [toNat_implicit, BitVec.toNat_ofNat]
    omega
  unfold pack unpack
  simp only [log2_normal hlo hhi, hbias, Nat.cast_ofNat, if_neg hfits]
  simp only [Format.mantissaBits, Nat.reduceAdd, if_true, unpackExponent_packComponents,
    unpackMantissa_packComponents, unpackSign_packComponents, Sign.ofBitVec_toBitVec,
    ← BitVec.toNat_inj, hexponent, hones, BitVec.toNat_zero]
  rw [if_neg (by omega), if_neg (by omega)]
  congr 1
  omega

theorem unpack_packedInfinity (s : Sign) :
    unpack Format.binary64 (packedInfinity Format.binary64 s) = .infinity s := by
  cases s <;> rfl

theorem unpack_pack_overflow (s : Sign) (he : 971 < e) (hm : 0 < m) :
    unpack Format.binary64 (pack Format.binary64 (.finite s m e hm)) = .infinity s := by
  have hbias : Format.binary64.exponentBias = 1023 := rfl
  have hoverflows : 2 ^ 11 ≤ (e + 1023 + 52).toNat + 1 := by omega
  rw [← unpack_packedInfinity]
  unfold pack
  simp only [hbias, Nat.cast_ofNat, if_pos hoverflows]

/-! ## Twice a number -/

theorem unpack_one : (1.0 : Float).toModel.unpack =
    .finite .positive 0x10_0000_0000_0000 (-52) (by decide) := rfl

theorem unpack_two : (2.0 : Float).toModel.unpack =
    .finite .positive 0x10_0000_0000_0000 (-51) (by decide) := rfl

theorem unpack_mul (x y : Float) : (x * y).toModel.unpack =
    unpack Format.binary64 (pack Format.binary64
      (mul Format.binary64 x.toModel.unpack y.toModel.unpack)) := rfl

theorem mul_positive (s : Sign) : s * Sign.positive = s := by cases s <;> rfl

theorem unpack_double_normal {x : Float} {s : Sign} {hm : 0 < m}
    (hx : x.toModel.unpack = .finite s m e hm) (hlo : 0x10_0000_0000_0000 ≤ m) :
    (x * 2.0).toModel.unpack = if e < 971 then .finite s m (e + 1) hm else .infinity s := by
  obtain ⟨hhi, he, he', _⟩ := isCanonical_unpack x s m e hm hx
  have hpower : (0x10_0000_0000_0000 : Nat) = 2 ^ 52 := rfl
  have hexponent : e + -51 = e + 1 - (52 : Nat) := by omega
  have hround := roundWithAccuracy_exact s hlo hhi (e := e + 1) (by omega) 52
  rw [unpack_mul, hx, unpack_two, mul, hexponent, mul_positive, hpower, hround]
  split
  · exact unpack_pack_normal s hlo hhi (by omega) (by omega)
  · exact unpack_pack_overflow s (by omega) hm

theorem unpack_double_infinity {x : Float} {s : Sign} (hx : x.toModel.unpack = .infinity s) :
    (x * 2.0).toModel.unpack = .infinity s := by
  rw [unpack_mul, hx, unpack_two, mul, mul_positive]
  exact unpack_packedInfinity s

theorem unpack_of_one_le {x : Float} (h : 1.0 ≤ x) :
    x.toModel.unpack = .infinity .positive ∨
      ∃ m e hm, x.toModel.unpack = .finite .positive m e hm ∧ 0x10_0000_0000_0000 ≤ m := by
  obtain ⟨o, ho, hle⟩ := le_iff.mp h
  have hcanonical := isCanonical_unpack x
  rw [compare?, unpack_one] at ho
  generalize x.toModel.unpack = a at *
  cases a with
  | notANumber => cases ho
  | zero s =>
    cases ho
    cases hle
  | infinity s =>
    cases s with
    | positive => exact Or.inl rfl
    | negative =>
      cases ho
      cases hle
  | finite s m e hm =>
    cases s with
    | negative =>
      cases ho
      cases hle
    | positive =>
      refine Or.inr ⟨m, e, hm, rfl, ?_⟩
      -- below the exponent of one all numbers are less than one
      have he : -52 ≤ e := by
        by_contra hlt
        cases ho
        rw [Int.compare_eq_gt.mpr (by omega)] at hle
        cases hle
      exact (hcanonical _ _ _ _ rfl).normal.resolve_left (by omega)

theorem le_double {x : Float} (h : 1.0 ≤ x) : x ≤ x * 2.0 := by
  rw [le_iff]
  obtain hx | ⟨m, e, hm, hx, hlo⟩ := unpack_of_one_le h
  · refine ⟨.eq, ?_, rfl⟩
    rw [compare?, hx, unpack_double_infinity hx]
    rfl
  · refine ⟨.lt, ?_, rfl⟩
    rw [compare?, hx, unpack_double_normal hx hlo]
    split
    · change some ((compare e (e + 1)).then (compare m m)) = _
      rw [Int.compare_eq_lt.mpr (by omega)]
      rfl
    · rfl

/-! ## Numbers that compare as equal -/

/-- Only the two zeros are different numbers that compare as equal. -/
theorem eq_of_le_of_le {x y : Float} (h : 1.0 ≤ x) (hle : x ≤ y) (hge : y ≤ x) : x = y := by
  obtain ⟨o, ho, h₁⟩ := le_iff.mp hle
  obtain ⟨p, hp, h₂⟩ := le_iff.mp hge
  rw [compare?_swap x y, ho] at hp
  cases hp
  obtain rfl : o = .eq := by cases o <;> simp_all
  have hbeq : (x == y) = true := by
    change (compare? x y == some .eq) = true
    rw [ho]
    rfl
  obtain ⟨_, _, hsame | ⟨rfl, _⟩ | ⟨rfl, _⟩⟩ := Float.beq_iff_ne_nan_and_eq.mp hbeq
  · exact hsame
  · exact absurd h (by decide)
  · exact absurd h (by decide)

end Binary64
end AdaptiveShaper
