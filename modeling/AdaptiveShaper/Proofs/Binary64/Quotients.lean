import AdaptiveShaper.Proofs.Binary64.Rounding
import AdaptiveShaper.Proofs.Binary64.Whole

/-!
# Quotients of whole numbers

A quotient is computed with more bits than are kept, and with the knowledge whether a remainder is
left. So rounding moves it to one of the two neighbours it lies between. As long as it is less than
`2^53`, it is rounded to nothing beyond the next whole number on either side.
-/

namespace AdaptiveShaper
namespace Binary64

open Float.Model (UnpackedFloat Format totalExponent)
open Float.Model.UnpackedFloat

variable {a n m d k x L H M N D : Nat} {e f E : Int}

/-! ## Rounding a long mantissa -/

theorem le_roundedMantissa (em : ExtendedMantissa) : em.mantissa ≤ em.roundedMantissa := by
  obtain ⟨m, r, s⟩ := em
  cases r with
  | false => cases s <;> exact Nat.le_refl _
  | true =>
    cases s with
    | false => exact Nat.le_add_right _ _
    | true => exact Nat.le_succ _

/-- The mantissa without its last `k` bits, rounded. -/
def roundedShift (M : Nat) (acc : Accuracy) (k : Nat) : Nat :=
  (ExtendedMantissa.ofMantissaAndAccuracy M acc >>> k).roundedMantissa

theorem roundedShift_bounds (M : Nat) (acc : Accuracy) (k : Nat) :
    M / 2 ^ k ≤ roundedShift M acc k ∧ roundedShift M acc k ≤ M / 2 ^ k + 1 := by
  have hmantissa : (ExtendedMantissa.ofMantissaAndAccuracy M acc >>> k).mantissa = M / 2 ^ k := by
    rw [mantissa_shiftRight, mantissa_ofMantissaAndAccuracy]
  rw [← hmantissa]
  exact ⟨le_roundedMantissa _, roundedMantissa_le _⟩

theorem roundedShift_exact (m k : Nat) : roundedShift (m * 2 ^ k) .exact k = m := by
  rw [roundedShift, ExtendedMantissa.ofMantissaAndAccuracy, shiftRight_exact]
  rfl

theorem div_two_pow_bounds (hM : M.log2 = 52 + k) :
    2 ^ 52 ≤ M / 2 ^ k ∧ M / 2 ^ k < 2 ^ 53 := by
  have hne : M ≠ 0 := by
    rintro rfl
    rw [Nat.log2_zero] at hM
    omega
  obtain ⟨hlo, hhi⟩ := (Nat.log2_eq_iff hne).mp hM
  constructor
  · rw [Nat.le_div_iff_mul_le (by positivity), ← pow_add]
    exact hlo
  · rw [Nat.div_lt_iff_lt_mul (by positivity), ← pow_add]
    exact hhi.trans_eq (by congr 1; omega)

/-- A mantissa with `k` bits too many loses them, and has one more to lose if it is carried up to a
power of two. -/
theorem exists_roundWithAccuracy (hM : M.log2 = 52 + k) (hE : -1074 ≤ E + k) (s : Sign)
    (acc : Accuracy) : ∃ m j hm,
      roundWithAccuracy Format.binary64 s M E acc = .finite s m (E + k + (j : Nat)) hm ∧
        0x10_0000_0000_0000 ≤ m ∧ m < 0x20_0000_0000_0000 ∧ j ≤ 1 ∧
        roundedShift M acc k = m * 2 ^ j := by
  obtain ⟨hlo, hhi⟩ := div_two_pow_bounds hM
  obtain ⟨hle, hge⟩ := roundedShift_bounds M acc k
  obtain ⟨m, j, hmlo, hmhi, hj, hrounded⟩ : ∃ m j, 0x10_0000_0000_0000 ≤ m ∧
      m < 0x20_0000_0000_0000 ∧ j ≤ 1 ∧ roundedShift M acc k = m * 2 ^ j := by
    rcases Nat.lt_or_ge (roundedShift M acc k) (2 ^ 53) with hlt | hcarry
    · exact ⟨_, 0, hlo.trans hle, hlt, by decide, (Nat.mul_one _).symm⟩
    · exact ⟨2 ^ 52, 1, by decide, by decide, Nat.le_refl 1, by omega⟩
  have htarget : Format.binary64.targetExponent (totalExponent M E) = E + k :=
    targetExponent_eq (by omega) hE
  have hshift : (E + k - E).toNat = k := by omega
  have hfirst : shiftToTargetExponent Format.binary64 M E acc =
      (ExtendedMantissa.ofMantissaAndAccuracy M acc >>> k, E + k) := by
    simp only [shiftToTargetExponent, shiftToExponent, htarget, hshift]
  have hsecond := shiftToTargetExponent_exact hmlo hmhi (e := E + k + j) (by omega) j
  rw [Int.add_sub_cancel, ← hrounded, roundedShift] at hsecond
  have hm : m ≠ 0 := by omega
  refine ⟨m, j, by omega, ?_, hmlo, hmhi, hj, hrounded⟩
  rw [roundWithAccuracy, hfirst]
  simp [hsecond, hm]

/-! ## Quotients that are rounded -/

/-- The quotient of `N` and `D` without its last `k` bits, rounded. -/
def roundedQuotient (N D k : Nat) : Nat :=
  roundedShift (N / D) (accuracyOfFraction (N % D) D) k

theorem le_roundedQuotient (hD : 0 < D) (h : L * 2 ^ k * D ≤ N) : L ≤ roundedQuotient N D k := by
  have hquotient : L * 2 ^ k ≤ N / D := (Nat.le_div_iff_mul_le hD).mpr h
  have hshifted : L ≤ N / D / 2 ^ k := (Nat.le_div_iff_mul_le (by positivity)).mpr hquotient
  exact hshifted.trans (roundedShift_bounds _ _ k).1

theorem roundedQuotient_le (hD : 0 < D) (h : N ≤ H * 2 ^ k * D) : roundedQuotient N D k ≤ H := by
  rcases h.lt_or_eq with hlt | rfl
  · have hquotient : N / D < H * 2 ^ k := (Nat.div_lt_iff_lt_mul hD).mpr hlt
    have hshifted : N / D / 2 ^ k < H := (Nat.div_lt_iff_lt_mul (by positivity)).mpr hquotient
    exact (roundedShift_bounds _ _ k).2.trans hshifted
  · -- nothing remains, and the bits that are dropped are zeros
    rw [roundedQuotient, Nat.mul_div_cancel _ hD, Nat.mul_mod_left]
    exact (roundedShift_exact H k).le

/-! ## Quotients of normal numbers -/

theorem divCore_normal (hmlo : 0x10_0000_0000_0000 ≤ m) (hmhi : m < 0x20_0000_0000_0000)
    (hdlo : 0x10_0000_0000_0000 ≤ d) (hdhi : d < 0x20_0000_0000_0000) (h : -1021 ≤ e - f) :
    divCore Format.binary64 m e d f =
      (m * 2 ^ 53 / d, e - f - 53, accuracyOfFraction (m * 2 ^ 53 % d) d) := by
  have htarget : Format.binary64.targetExponent (totalExponent m e - totalExponent d f) =
      e - f - 53 := by
    simp only [Format.targetExponent, totalExponent, log2_normal hmlo hmhi, log2_normal hdlo hdhi,
      Format.mantissaBits, Format.minExponent]
    omega
  have hmin : min (e - f) (e - f - 53) = e - f - 53 := by omega
  have hshift : (e - f - (e - f - 53)).toNat = 53 := by omega
  simp only [divCore, htarget, hmin, hshift, Nat.shiftLeft_eq]

/-- The quotient of two normal mantissas has one or two bits more than are kept. -/
theorem exists_log2_quotient (hmlo : 0x10_0000_0000_0000 ≤ m) (hmhi : m < 0x20_0000_0000_0000)
    (hdlo : 0x10_0000_0000_0000 ≤ d) (hdhi : d < 0x20_0000_0000_0000) :
    ∃ k, (m * 2 ^ 53 / d).log2 = 52 + k ∧ k ≤ 1 := by
  have hlo : 2 ^ 52 ≤ m * 2 ^ 53 / d := by
    rw [Nat.le_div_iff_mul_le (by omega)]
    omega
  have hhi : m * 2 ^ 53 / d < 2 ^ 54 := by
    rw [Nat.div_lt_iff_lt_mul (by omega)]
    omega
  have hne : m * 2 ^ 53 / d ≠ 0 := by omega
  have hlog : 52 ≤ (m * 2 ^ 53 / d).log2 := (Nat.le_log2 hne).mpr hlo
  have hlog' : (m * 2 ^ 53 / d).log2 < 54 := (Nat.log2_lt hne).mpr hhi
  exact ⟨(m * 2 ^ 53 / d).log2 - 52, by omega, by omega⟩

/-- A positive number with a mantissa of 53 bits, far from the least and the greatest ones. -/
structure HasNormal (m : Nat) (e : Int) (y : Float) : Prop where
  unpack_eq : ∃ hm, y.toModel.unpack = .finite .positive m e hm
  le_mantissa : 0x10_0000_0000_0000 ≤ m
  mantissa_lt : m < 0x20_0000_0000_0000
  le_exponent : -52 ≤ e
  exponent_le : e ≤ 12

theorem HasNormal.exists_div {y z : Float} (hy : HasNormal m e y) (hz : HasNormal d f z) :
    ∃ k, (m * 2 ^ 53 / d).log2 = 52 + k ∧ k ≤ 1 ∧ (y / z).isFinite = true ∧
      toReal (y / z) = roundedQuotient (m * 2 ^ 53) d k * 2 ^ (e - f - 53 + k) := by
  obtain ⟨⟨hm, hyunpack⟩, hmlo, hmhi, helo, hehi⟩ := hy
  obtain ⟨⟨hd, hzunpack⟩, hdlo, hdhi, hflo, hfhi⟩ := hz
  obtain ⟨k, hlog, hk⟩ := exists_log2_quotient hmlo hmhi hdlo hdhi
  obtain ⟨q, j, hq, hround, hqlo, hqhi, hj, hrounded⟩ := exists_roundWithAccuracy hlog
    (E := e - f - 53) (by omega) .positive (accuracyOfFraction (m * 2 ^ 53 % d) d)
  have hunpack : (y / z).toModel.unpack = .finite .positive q (e - f - 53 + k + j) hq := by
    rw [unpack_div, hyunpack, hzunpack, UnpackedFloat.div,
      divCore_normal hmlo hmhi hdlo hdhi (by omega)]
    change unpack Format.binary64 (pack Format.binary64 (roundWithAccuracy Format.binary64
      .positive (m * 2 ^ 53 / d) (e - f - 53) (accuracyOfFraction (m * 2 ^ 53 % d) d))) = _
    rw [hround]
    exact unpack_pack_normal .positive hqlo hqhi (by omega) (by omega)
  refine ⟨k, hlog, hk, ?_, ?_⟩
  · change (y / z).toModel.unpack.isFinite = true
    rw [hunpack]
    rfl
  · rw [toReal, hunpack, roundedQuotient, hrounded]
    change (q * 2 ^ (e - f - 53 + k + j) : ℝ) = _
    push_cast
    rw [zpow_add₀ two_ne_zero, zpow_natCast]
    ring

/-- A bound on a quotient that only looks at the exponents. -/
theorem HasNormal.toReal_div_le {y z : Float} (hy : HasNormal m e y) (hz : HasNormal d f z) :
    toReal (y / z) ≤ 2 ^ (e - f + 1) := by
  obtain ⟨k, hlog, hk, _, hvalue⟩ := hy.exists_div hz
  have hrounded : roundedQuotient (m * 2 ^ 53) d k ≤ 2 ^ 53 :=
    (roundedShift_bounds _ _ k).2.trans (div_two_pow_bounds hlog).2
  have hmantissa : (roundedQuotient (m * 2 ^ 53) d k : ℝ) ≤ 2 ^ (53 : Int) := by
    exact_mod_cast hrounded
  calc toReal (y / z) = roundedQuotient (m * 2 ^ 53) d k * 2 ^ (e - f - 53 + k) := hvalue
    _ ≤ 2 ^ (53 : Int) * 2 ^ (e - f - 53 + k) := by gcongr
    _ = 2 ^ (e - f + k) := by
      rw [← zpow_add₀ two_ne_zero]
      congr 1
      omega
    _ ≤ 2 ^ (e - f + 1) := zpow_le_zpow_right₀ (by norm_num) (by omega)

/-! ## Whole numbers in normal form -/

theorem NormalForm.hasNormal (h : NormalForm n m e) (hn : n ≤ 2 ^ 53) :
    HasNormal m e (Float.ofNat n) where
  unpack_eq := ⟨h.mantissa_pos, by rw [unpack_ofNat hn, h.ofNat_eq]⟩
  le_mantissa := h.le_mantissa
  mantissa_lt := h.mantissa_lt
  le_exponent := h.le_exponent
  exponent_le := h.exponent_le.trans (by decide)

/-- Beyond `2^53` the last bit that is kept is that of a two or more. -/
theorem exists_hasNormal_of_lt (hlarge : 2 ^ 53 < n) (h : n < 2 ^ 64) :
    ∃ m e, HasNormal m e (Float.ofNat n) ∧ 1 ≤ e := by
  have hbits : (n * 2 ^ 53).log2 = 52 + (n.log2 + 1) := by
    rw [log2_mul_two_pow (by omega)]
    omega
  have hlo : 53 ≤ n.log2 := (Nat.le_log2 (by omega)).mpr hlarge.le
  have hhi : n.log2 < 64 := (Nat.log2_lt (by omega)).mpr h
  obtain ⟨m, j, hm, hround, hmlo, hmhi, hj, _⟩ :=
    exists_roundWithAccuracy hbits (E := -53) (by omega) .positive .exact
  refine ⟨m, -53 + (n.log2 + 1 : Nat) + j, ⟨⟨hm, ?_⟩, hmlo, hmhi, by omega, by omega⟩, by omega⟩
  change (Float.ofScientific n false 0).toModel.unpack = _
  unfold Float.ofScientific
  rw [dif_neg (by omega)]
  change unpack Format.binary64 (pack Format.binary64
    (UnpackedFloat.ofScientific Format.binary64 n 0)) = _
  rw [ofScientific_whole (by omega), hround]
  exact unpack_pack_normal .positive hmlo hmhi (by omega) (by omega)

theorem exists_hasNormal (hpos : 0 < n) (h : n < 2 ^ 64) :
    ∃ m e, HasNormal m e (Float.ofNat n) := by
  rcases Nat.lt_or_ge (2 ^ 53) n with hlarge | hsmall
  · obtain ⟨m, e, hn, _⟩ := exists_hasNormal_of_lt hlarge h
    exact ⟨m, e, hn⟩
  · obtain ⟨m, e, hn⟩ := (zero_or_normalForm hsmall).resolve_left (Nat.ne_of_gt hpos)
    exact ⟨m, e, hn.hasNormal hsmall⟩

/-! ## Quotients of whole numbers -/

/-- The last bit that is kept of a quotient less than `2^53` is a unit or a part of one. So whole
numbers can be counted in it, and compared with the quotient. -/
theorem NormalForm.exists_units (ha : NormalForm a m e) (hn : NormalForm n d f)
    (hbits : 2 ^ (52 + k) * d ≤ m * 2 ^ 53) (h : a < 2 ^ 53 * n) :
    ∃ j : Nat, e - f - 53 + k = -j ∧ ∀ x,
      (x * 2 ^ j * 2 ^ k * d ≤ m * 2 ^ 53 ↔ x * n ≤ a) ∧
      (m * 2 ^ 53 ≤ x * 2 ^ j * 2 ^ k * d ↔ a ≤ x * n) := by
  have he := ha.le_exponent
  have hf := hn.le_exponent
  obtain ⟨p, hp⟩ : ∃ p, (e + 52).toNat = p := ⟨_, rfl⟩
  obtain ⟨q, hq⟩ : ∃ q, (f + 52).toNat = q := ⟨_, rfl⟩
  have hma : m * 2 ^ p = a * 2 ^ 52 := hp ▸ ha.mantissa_mul
  have hdn : d * 2 ^ q = n * 2 ^ 52 := hq ▸ hn.mantissa_mul
  have hsmall : p + k < q + 54 := by
    have hlt : d * 2 ^ (52 + k + p) < d * 2 ^ (q + 106) := by
      calc d * 2 ^ (52 + k + p) = 2 ^ (52 + k) * d * 2 ^ p := by ring
        _ ≤ m * 2 ^ 53 * 2 ^ p := Nat.mul_le_mul_right _ hbits
        _ = m * 2 ^ p * 2 ^ 53 := by ring
        _ = a * 2 ^ 105 := by
          rw [hma]
          ring
        _ < 2 ^ 53 * n * 2 ^ 105 := Nat.mul_lt_mul_of_pos_right h (by positivity)
        _ = n * 2 ^ 52 * 2 ^ 106 := by ring
        _ = d * 2 ^ (q + 106) := by
          rw [← hdn]
          ring
    have hexponents := (Nat.pow_lt_pow_iff_right (by decide)).mp (Nat.lt_of_mul_lt_mul_left hlt)
    omega
  refine ⟨q + 53 - k - p, by omega, fun x => ?_⟩
  -- both comparisons are of the same two numbers, up to a factor
  have hleft : x * 2 ^ (q + 53 - k - p) * 2 ^ k * d * 2 ^ p = x * n * 2 ^ 105 := by
    have hsplit : q + 53 - k - p + k + p = q + 53 := by omega
    calc x * 2 ^ (q + 53 - k - p) * 2 ^ k * d * 2 ^ p
        = x * d * 2 ^ (q + 53 - k - p + k + p) := by ring
      _ = x * (d * 2 ^ q) * 2 ^ 53 := by
        rw [hsplit]
        ring
      _ = x * n * 2 ^ 105 := by
        rw [hdn]
        ring
  have hright : m * 2 ^ 53 * 2 ^ p = a * 2 ^ 105 := by
    calc m * 2 ^ 53 * 2 ^ p = m * 2 ^ p * 2 ^ 53 := by ring
      _ = a * 2 ^ 105 := by
        rw [hma]
        ring
  constructor
  · rw [← Nat.mul_le_mul_right_iff (show 0 < 2 ^ p by positivity), hleft, hright,
      Nat.mul_le_mul_right_iff (by positivity)]
  · rw [← Nat.mul_le_mul_right_iff (show 0 < 2 ^ p by positivity), hleft, hright,
      Nat.mul_le_mul_right_iff (by positivity)]

/-- A quotient less than `2^53` is rounded to nothing beyond the next whole numbers. -/
theorem toReal_div_ofNat (hpos : 0 < a) (ha : a ≤ 2 ^ 53) (hnpos : 0 < n) (hn : n ≤ 2 ^ 53)
    (h : a < 2 ^ 53 * n) : (Float.ofNat a / Float.ofNat n).isFinite = true ∧ ∀ x : Nat,
      (x * n ≤ a → (x : ℝ) ≤ toReal (Float.ofNat a / Float.ofNat n)) ∧
      (a ≤ x * n → toReal (Float.ofNat a / Float.ofNat n) ≤ x) := by
  obtain ⟨m, e, hma⟩ := (zero_or_normalForm ha).resolve_left (Nat.ne_of_gt hpos)
  obtain ⟨d, f, hdn⟩ := (zero_or_normalForm hn).resolve_left (Nat.ne_of_gt hnpos)
  have hdpos := hdn.mantissa_pos
  obtain ⟨k, hlog, _, hfinite, hvalue⟩ := (hma.hasNormal ha).exists_div (hdn.hasNormal hn)
  have hbits : 2 ^ (52 + k) * d ≤ m * 2 ^ 53 := by
    rw [← hlog, ← Nat.le_div_iff_mul_le hdpos]
    refine Nat.log2_self_le fun hzero => ?_
    rw [hzero, Nat.log2_zero] at hlog
    omega
  obtain ⟨j, hj, hunits⟩ := hma.exists_units hdn hbits h
  refine ⟨hfinite, fun x => ?_⟩
  have hunit : (x : ℝ) = (x * 2 ^ j : Nat) * 2 ^ (-j : Int) := by
    rw [zpow_neg, zpow_natCast]
    push_cast
    rw [mul_inv_cancel_right₀ (by positivity)]
  rw [hvalue, hj, hunit]
  constructor
  · intro hle
    have hrounded := le_roundedQuotient hdpos ((hunits x).1.mpr hle)
    gcongr
  · intro hle
    have hrounded := roundedQuotient_le hdpos ((hunits x).2.mpr hle)
    gcongr

theorem toWhole_of_toReal {y : Float} (hy : y.isFinite = true) :
    toWhole y = min (round (toReal y)).toNat 0xffff_ffff_ffff_ffff :=
  toWhole_of_real (extended_of_isFinite hy)

/-- The whole number of a quotient is one of the two next to it. -/
theorem toWhole_div_ofNat (hpos : 0 < a) (ha : a ≤ 2 ^ 53) (hnpos : 0 < n) (hn : n ≤ 2 ^ 53)
    (x : Nat) : (x * n ≤ a → x ≤ toWhole (Float.ofNat a / Float.ofNat n)) ∧
      (a ≤ x * n → toWhole (Float.ofNat a / Float.ofNat n) ≤ x) := by
  rcases Nat.lt_or_ge a (2 ^ 53 * n) with hlt | hge
  · obtain ⟨hfinite, hbounds⟩ := toReal_div_ofNat hpos ha hnpos hn hlt
    have hround : (round (x : ℝ)).toNat = x := by
      rw [round_natCast]
      rfl
    rw [toWhole_of_toReal hfinite]
    constructor
    · intro hle
      have hx : x ≤ x * n := Nat.le_mul_of_pos_right x hnpos
      have hreal := Int.toNat_le_toNat (round_mono ((hbounds x).1 hle))
      omega
    · intro hle
      have hreal := Int.toNat_le_toNat (round_mono ((hbounds x).2 hle))
      omega
  · -- the only quotient that is not less than `2^53`
    obtain rfl : n = 1 := by omega
    obtain rfl : a = 2 ^ 53 := by omega
    have hquotient : toWhole (Float.ofNat (2 ^ 53) / Float.ofNat 1) = 2 ^ 53 := by decide +kernel
    rw [hquotient, Nat.mul_one]
    exact ⟨id, id⟩

/-- With a divisor that is so large that it may not be exact, a quotient with a dividend of at most
`2^53` is rounded to at most two. -/
theorem toWhole_div_le_two (hpos : 0 < a) (ha : a ≤ 2 ^ 53) (hlarge : 2 ^ 53 < n)
    (hn : n < 2 ^ 64) : toWhole (Float.ofNat a / Float.ofNat n) ≤ 2 := by
  obtain ⟨m, e, hma⟩ := (zero_or_normalForm ha).resolve_left (Nat.ne_of_gt hpos)
  obtain ⟨d, f, hdn, hf⟩ := exists_hasNormal_of_lt hlarge hn
  have he := hma.exponent_le
  have hquotient := (hma.hasNormal ha).toReal_div_le hdn
  obtain ⟨_, _, _, hfinite, _⟩ := (hma.hasNormal ha).exists_div hdn
  have htwo : toReal (Float.ofNat a / Float.ofNat n) ≤ (2 : Nat) := by
    refine hquotient.trans ?_
    calc (2 : ℝ) ^ (e - f + 1) ≤ 2 ^ (1 : Int) := zpow_le_zpow_right₀ (by norm_num) (by omega)
      _ = (2 : Nat) := by norm_num
  have hround := Int.toNat_le_toNat (round_mono htwo)
  rw [round_natCast] at hround
  rw [toWhole_of_toReal hfinite]
  omega

/-! ## Numbers that stay what they are -/

theorem ofModel_pack_unpack (y : Float) : Float.ofModel (.pack y.toModel.unpack) = y := by
  obtain ⟨⟨word, hvalid⟩⟩ := y
  have hword : UnpackedFloat.pack Format.binary64 (UnpackedFloat.unpack Format.binary64
      word.toBitVec) = word.toBitVec := pack_unpack_of_valid hvalid
  simp only [Float.Model.pack, Float.Model.unpack, hword]

variable {y : Float}

/-- The sign of a zero that is added to makes no difference. -/
theorem HasNormal.zero_add (h : HasNormal m e y) {z : Float} {s : Sign} (hz : z.toModel.unpack = .zero s) :
    z + y = y := by
  obtain ⟨hm, hy⟩ := h.unpack_eq
  change Float.ofModel (.pack (UnpackedFloat.add Format.binary64 z.toModel.unpack
    y.toModel.unpack)) = y
  have hadd : UnpackedFloat.add Format.binary64 z.toModel.unpack y.toModel.unpack =
      y.toModel.unpack := by
    rw [hz, hy]
    rfl
  rw [hadd, ofModel_pack_unpack]

theorem HasNormal.div_one (h : HasNormal m e y) : y / Float.ofNat 1 = y := by
  obtain ⟨⟨hm, hy⟩, hlo, hhi, he, _⟩ := h
  have hone : (Float.ofNat 1).toModel.unpack =
      .finite .positive 0x10_0000_0000_0000 (-52) (by decide) := rfl
  change Float.ofModel (.pack (UnpackedFloat.div Format.binary64 y.toModel.unpack
    (Float.ofNat 1).toModel.unpack)) = y
  have hdiv : UnpackedFloat.div Format.binary64 y.toModel.unpack (Float.ofNat 1).toModel.unpack =
      y.toModel.unpack := by
    have hexact := roundWithAccuracy_exact .positive hlo hhi (e := e) (by omega) 1
    rw [hone, hy, UnpackedFloat.div, divCore_normal hlo hhi (by decide) (by decide) (by omega)]
    have hquotient : m * 2 ^ 53 / 0x10_0000_0000_0000 = m * 2 ^ 1 := by omega
    have hrest : m * 2 ^ 53 % 0x10_0000_0000_0000 = 0 := by omega
    have hexponent : e - -52 - 53 = e - (1 : Nat) := by omega
    rw [hquotient, hrest, hexponent]
    exact hexact
  rw [hdiv, ofModel_pack_unpack]

end Binary64
end AdaptiveShaper
