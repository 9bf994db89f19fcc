import AdaptiveShaper.Proofs.Binary64.Doubling

/-!
# Results that stay finite

Rounding raises an exponent as far as the mantissa is too long, and packing makes a number infinite
only if its exponent is beyond 971. So a bound on the exponents of sums, products and quotients
before rounding tells when they are finite.
-/

namespace AdaptiveShaper
namespace Binary64

open Float.Model (UnpackedFloat Format totalExponent)
open Float.Model.UnpackedFloat

/-- A finite number with an exponent that is at most `E`. -/
def ExponentLe (E : Int) : UnpackedFloat → Prop
  | .notANumber => False
  | .infinity _ => False
  | .zero _ => True
  | .finite _ _ e _ => e ≤ E

variable {E F e : Int} {m : Nat}

theorem ExponentLe.isFinite {a : UnpackedFloat} (h : ExponentLe E a) : a.isFinite = true := by
  cases a <;> first | rfl | exact h.elim

theorem ExponentLe.mono {a : UnpackedFloat} (h : ExponentLe E a) (hEF : E ≤ F) :
    ExponentLe F a := by
  cases a with
  | finite s m e hm => exact Int.le_trans h hEF
  | _ => exact h

/-! ## Rounding -/

theorem mantissa_shiftRight (em : ExtendedMantissa) (k : Nat) :
    (em >>> k).mantissa = em.mantissa / 2 ^ k := by
  induction k with
  | zero => exact (Nat.div_one _).symm
  | succ k ih =>
    change (em >>> k).mantissa / 2 = _
    rw [ih, Nat.div_div_eq_div_mul, pow_succ]

theorem mantissa_ofMantissaAndAccuracy (m : Nat) (acc : Accuracy) :
    (ExtendedMantissa.ofMantissaAndAccuracy m acc).mantissa = m := by
  cases acc with
  | exact => rfl
  | inexact o => cases o <;> rfl

theorem roundedMantissa_le (em : ExtendedMantissa) : em.roundedMantissa ≤ em.mantissa + 1 := by
  obtain ⟨m, r, s⟩ := em
  cases r with
  | false => cases s <;> simp [ExtendedMantissa.roundedMantissa, ExtendedMantissa.accuracy,
      Accuracy.roundToNearestEven]
  | true =>
    cases s with
    | false =>
      change m + m % 2 ≤ m + 1
      omega
    | true => exact Nat.le_refl _

theorem log2_lt_of_lt {k : Nat} (hk : 0 < k) (h : m < 2 ^ k) : m.log2 < k := by
  rcases Nat.eq_zero_or_pos m with rfl | hm
  · exact hk
  · exact (Nat.log2_lt (Nat.ne_of_gt hm)).mpr h

/-- Shifting goes no farther than to the exponent at which 53 bits are left. -/
theorem exponent_shiftToTargetExponent_le (hE : -1074 ≤ E) (he : e ≤ E)
    (hm : m < 2 ^ (53 + (E - e).toNat)) (acc : Accuracy) :
    e ≤ (shiftToTargetExponent Format.binary64 m e acc).2 ∧
      (shiftToTargetExponent Format.binary64 m e acc).2 ≤ E := by
  have hlog := log2_lt_of_lt (by omega) hm
  simp only [shiftToTargetExponent, shiftToExponent, Format.targetExponent, totalExponent,
    Format.mantissaBits, Format.minExponent]
  omega

theorem mantissa_shiftToTargetExponent (m : Nat) (e : Int) (acc : Accuracy) :
    (shiftToTargetExponent Format.binary64 m e acc).1.mantissa =
      m / 2 ^ ((shiftToTargetExponent Format.binary64 m e acc).2 - e).toNat := by
  simp only [shiftToTargetExponent, shiftToExponent, mantissa_shiftRight,
    mantissa_ofMantissaAndAccuracy]
  congr 2
  omega

/-- A finite number whose magnitude is at most that of the mantissa `n` with the exponent `E`. The
exponents are compared first. -/
def MagnitudeLe (n : Nat) (E : Int) : UnpackedFloat → Prop
  | .notANumber => False
  | .infinity _ => False
  | .zero _ => True
  | .finite _ m e _ => e < E ∨ e = E ∧ m ≤ n

theorem MagnitudeLe.exponentLe {n : Nat} {a : UnpackedFloat} (h : MagnitudeLe n E a) :
    ExponentLe E a := by
  cases a with
  | notANumber => exact h
  | infinity s => exact h
  | zero s => trivial
  | finite s m e hm => exact h.elim Int.le_of_lt fun heq => Int.le_of_eq heq.1

/-- Rounding may carry one more unit into the mantissa, which is why the mantissa before has to be
less than `n` units of the exponent `E`. -/
theorem magnitudeLe_roundWithAccuracy {n : Nat} (hE : -1074 ≤ E) (he : e ≤ E) (hn : n < 2 ^ 53)
    (hm : m < n * 2 ^ (E - e).toNat) (s : Sign) (acc : Accuracy) :
    MagnitudeLe n E (roundWithAccuracy Format.binary64 s m e acc) := by
  have hshort : m < 2 ^ (53 + (E - e).toNat) := by
    rw [pow_add]
    exact hm.trans_le (Nat.mul_le_mul_right _ hn.le)
  obtain ⟨hlo, hhi⟩ := exponent_shiftToTargetExponent_le hE he hshort acc
  have hmantissa := mantissa_shiftToTargetExponent m e acc
  have hround := roundedMantissa_le (shiftToTargetExponent Format.binary64 m e acc).1
  unfold roundWithAccuracy
  generalize shiftToTargetExponent Format.binary64 m e acc = first at *
  obtain ⟨em, f⟩ := first
  simp only at hlo hhi hmantissa hround ⊢
  -- what the first shift leaves, and the unit carried into it, still fit below `E`
  have hquotient : m / 2 ^ (f - e).toNat < n * 2 ^ (E - f).toNat := by
    rw [Nat.div_lt_iff_lt_mul (by positivity), mul_assoc, ← pow_add]
    have hsplit : (E - f).toNat + (f - e).toNat = (E - e).toNat := by omega
    rwa [hsplit]
  have hrounded : em.roundedMantissa ≤ n * 2 ^ (E - f).toNat := by
    rw [hmantissa] at hround
    omega
  have hfits : em.roundedMantissa < 2 ^ (53 + (E - f).toNat) := by
    rw [pow_add]
    exact hrounded.trans_lt (Nat.mul_lt_mul_of_pos_right hn (by positivity))
  have hsecond := (exponent_shiftToTargetExponent_le hE hhi hfits .exact).2
  have hlast := mantissa_shiftToTargetExponent em.roundedMantissa f .exact
  generalize shiftToTargetExponent Format.binary64 em.roundedMantissa f .exact = second at *
  obtain ⟨em', g⟩ := second
  simp only at hsecond hlast ⊢
  split
  · trivial
  · rcases hsecond.lt_or_eq with hlt | rfl
    · exact .inl hlt
    · have hle : em'.mantissa ≤ n := by
        rw [hlast]
        exact Nat.div_le_of_le_mul (by rwa [mul_comm])
      exact .inr ⟨rfl, hle⟩

theorem exponentLe_roundWithAccuracy (hE : -1074 ≤ E) (he : e ≤ E)
    (hm : m < (2 ^ 53 - 1) * 2 ^ (E - e).toNat) (s : Sign) (acc : Accuracy) :
    ExponentLe E (roundWithAccuracy Format.binary64 s m e acc) :=
  (magnitudeLe_roundWithAccuracy hE he (by decide) hm s acc).exponentLe

theorem exponentLe_round (hE : -1074 ≤ E) (he : e ≤ E)
    (hm : m < (2 ^ 53 - 1) * 2 ^ (E - e).toNat) (s : Sign) :
    ExponentLe E (UnpackedFloat.round Format.binary64 s m e) := by
  unfold UnpackedFloat.round decreaseExponent
  simp only
  generalize (e - Format.binary64.targetExponent (totalExponent m e)).toNat = k
  refine exponentLe_roundWithAccuracy hE (by omega) ?_ s _
  have hsplit : (E - (e - (k : Int))).toNat = (E - e).toNat + k := by omega
  rw [hsplit, pow_add, ← mul_assoc, Nat.shiftLeft_eq]
  exact Nat.mul_lt_mul_of_pos_right hm (by positivity)

theorem exponentLe_normalize (hE : -1074 ≤ E) (he : e ≤ E) {n : Int}
    (hn : n.natAbs < (2 ^ 53 - 1) * 2 ^ (E - e).toNat) (s : Sign) :
    ExponentLe E (UnpackedFloat.normalize Format.binary64 n e s) := by
  unfold UnpackedFloat.normalize
  split
  · next hlt =>
    have hneg := Int.compare_eq_lt.mp hlt
    exact exponentLe_round hE he (by omega) _
  · trivial
  · next hgt =>
    have hpos := Int.compare_eq_gt.mp hgt
    exact exponentLe_round hE he (by omega) _

/-! ## Packing -/

theorem magnitudeLe_unpack_packComponents {n : Nat} (hn : 2 ^ 52 ≤ n) (s : Sign) {x : BitVec 11}
    (f : BitVec 52) (hE : -1074 ≤ E) (hx : x.toNat ≤ 2046)
    (h : (x.toNat : Int) < E + 1075 ∨ (x.toNat : Int) = E + 1075 ∧ f.toNat + 2 ^ 52 ≤ n) :
    MagnitudeLe n E (unpack Format.binary64 (packComponents Format.binary64 s x f)) := by
  have hones : (-1#11).toNat = 2047 := rfl
  have hbias : Format.binary64.exponentBias = 1023 := rfl
  have hf := f.isLt
  unfold unpack
  simp only [unpackExponent_packComponents, unpackMantissa_packComponents, ← BitVec.toNat_inj,
    hones, BitVec.toNat_zero, hbias]
  rw [if_neg (by omega)]
  split
  · next hzero =>
    split
    · trivial
    · -- a mantissa without the leading bit is less than any with it
      simp only [MagnitudeLe]
      omega
  · simp only [MagnitudeLe, toNat_implicit]
    omega

/-- Packing keeps the magnitude below a bound, if the bound is that of a finite number. -/
theorem MagnitudeLe.unpack_pack {n : Nat} {a : UnpackedFloat} (h : MagnitudeLe n E a)
    (hn : 2 ^ 52 ≤ n) (hE : -1074 ≤ E) (hE' : E ≤ 971) :
    MagnitudeLe n E (unpack Format.binary64 (pack Format.binary64 a)) := by
  cases a with
  | notANumber => exact h.elim
  | infinity s => exact h.elim
  | zero s => cases s <;> trivial
  | finite s m e hm =>
    have hbias : Format.binary64.exponentBias = 1023 := rfl
    change e < E ∨ e = E ∧ m ≤ n at h
    have hfits : ¬ 2 ^ 11 ≤ (e + 1023 + 52).toNat + 1 := by omega
    have hexponent : (BitVec.ofNat 11 (e + 1023 + 52).toNat).toNat = (e + 1075).toNat := by
      rw [BitVec.toNat_ofNat, Nat.mod_eq_of_lt (by omega)]
      omega
    unfold pack
    simp only [hbias, Nat.cast_ofNat, if_neg hfits]
    split
    · next hlog =>
      have hnormal : m.log2 = 52 := Nat.succ.inj hlog
      obtain ⟨hlo, hhi⟩ := (Nat.log2_eq_iff (Nat.ne_of_gt hm)).mp hnormal
      refine magnitudeLe_unpack_packComponents hn s _ hE ?_ ?_
      · rw [hexponent]
        omega
      · rw [hexponent, BitVec.toNat_ofNat]
        omega
    · refine magnitudeLe_unpack_packComponents hn s _ hE (by simp) ?_
      simp only [BitVec.toNat_zero]
      omega

theorem ExponentLe.exists_magnitudeLe {a : UnpackedFloat} (h : ExponentLe E a) :
    ∃ n, 2 ^ 52 ≤ n ∧ MagnitudeLe n E a := by
  cases a with
  | notANumber => exact h.elim
  | infinity s => exact h.elim
  | zero s => exact ⟨2 ^ 52, Nat.le_refl _, trivial⟩
  | finite s m e hm =>
    exact ⟨max m (2 ^ 52), Nat.le_max_right _ _, (Int.le_iff_lt_or_eq.mp h).imp_right fun he =>
      ⟨he, Nat.le_max_left _ _⟩⟩

/-- Packing keeps the exponent, if it is one of a finite number. -/
theorem ExponentLe.unpack_pack {a : UnpackedFloat} (h : ExponentLe E a) (hE : -1074 ≤ E)
    (hE' : E ≤ 971) : ExponentLe E (unpack Format.binary64 (pack Format.binary64 a)) := by
  obtain ⟨n, hn, hle⟩ := h.exists_magnitudeLe
  exact (hle.unpack_pack hn hE hE').exponentLe

/-! ## Arithmetic -/

/-- Whether `x` is finite with an exponent that is at most `E`. -/
def UpTo (E : Int) (x : Float) : Prop := ExponentLe E x.toModel.unpack

variable {x y : Float}

theorem UpTo.isFinite (h : UpTo E x) : x.isFinite = true := ExponentLe.isFinite h

theorem unpack_add (x y : Float) : (x + y).toModel.unpack =
    unpack Format.binary64 (pack Format.binary64
      (add Format.binary64 x.toModel.unpack y.toModel.unpack)) := rfl

theorem unpack_div (x y : Float) : (x / y).toModel.unpack =
    unpack Format.binary64 (pack Format.binary64
      (div Format.binary64 x.toModel.unpack y.toModel.unpack)) := rfl

theorem natAbs_apply (s : Sign) (n : Int) : (s.apply n).natAbs = n.natAbs := by
  cases s
  · exact Int.natAbs_neg n
  · rfl

/-- The mantissas of a sum are brought to the lesser exponent and added. -/
theorem UpTo.add (hx : UpTo E x) (hy : UpTo E y) (hE : -1074 ≤ E) (hE' : E + 2 ≤ 971) :
    UpTo (E + 2) (x + y) := by
  have hxc := isCanonical_unpack x
  have hyc := isCanonical_unpack y
  unfold UpTo at *
  rw [unpack_add]
  refine ExponentLe.unpack_pack ?_ (by omega) hE'
  generalize x.toModel.unpack = a at *
  generalize y.toModel.unpack = b at *
  cases a with
  | notANumber => exact hx.elim
  | infinity s => exact hx.elim
  | zero s =>
    cases b with
    | notANumber => exact hy.elim
    | infinity t => exact hy.elim
    | zero t =>
      simp only [UnpackedFloat.add]
      split <;> trivial
    | finite t n f hn => exact ExponentLe.mono hy (by omega)
  | finite s m e hm =>
    cases b with
    | notANumber => exact hy.elim
    | infinity t => exact hy.elim
    | zero t => exact ExponentLe.mono hx (by omega)
    | finite t n f hn =>
      have he : e ≤ E := hx
      have hf : f ≤ E := hy
      have hmlt := (hxc s m e hm rfl).mantissa_lt
      have hnlt := (hyc t n f hn rfl).mantissa_lt
      simp only [UnpackedFloat.add, decreaseExponent, Nat.shiftLeft_eq]
      have hleft : m * 2 ^ (e - min e f).toNat ≤ 2 ^ 53 * 2 ^ (E - min e f).toNat :=
        Nat.mul_le_mul (by omega) (Nat.pow_le_pow_right (by decide) (by omega))
      have hright : n * 2 ^ (f - min e f).toNat ≤ 2 ^ 53 * 2 ^ (E - min e f).toNat :=
        Nat.mul_le_mul (by omega) (Nat.pow_le_pow_right (by decide) (by omega))
      have hsplit : (E + 2 - min e f).toNat = (E - min e f).toNat + 2 := by omega
      have hpos : 0 < 2 ^ (E - min e f).toNat := by positivity
      refine exponentLe_normalize (by omega) (by omega) ?_ _
      refine Nat.lt_of_le_of_lt (Int.natAbs_add_le _ _) ?_
      rw [natAbs_apply, natAbs_apply, Int.natAbs_natCast, Int.natAbs_natCast, hsplit, pow_add]
      omega

theorem UpTo.mul (hx : UpTo E x) (hy : UpTo F y) (hlo : -1074 ≤ E + F + 54)
    (hhi : E + F + 54 ≤ 971) : UpTo (E + F + 54) (x * y) := by
  have hxc := isCanonical_unpack x
  have hyc := isCanonical_unpack y
  unfold UpTo at *
  rw [unpack_mul]
  refine ExponentLe.unpack_pack ?_ hlo hhi
  generalize x.toModel.unpack = a at *
  generalize y.toModel.unpack = b at *
  cases a with
  | notANumber => exact hx.elim
  | infinity s => exact hx.elim
  | zero s => cases b <;> trivial
  | finite s m e hm =>
    cases b with
    | notANumber => exact hy.elim
    | infinity t => exact hy.elim
    | zero t => trivial
    | finite t n f hn =>
      have he : e ≤ E := hx
      have hf : f ≤ F := hy
      have hmlt := (hxc s m e hm rfl).mantissa_lt
      have hnlt := (hyc t n f hn rfl).mantissa_lt
      refine exponentLe_roundWithAccuracy hlo (by omega) ?_ _ _
      calc m * n < 2 ^ 53 * 2 ^ 53 := Nat.mul_lt_mul'' hmlt hnlt
        _ ≤ (2 ^ 53 - 1) * 2 ^ 54 := by norm_num
        _ ≤ (2 ^ 53 - 1) * 2 ^ (E + F + 54 - (e + f)).toNat :=
          Nat.mul_le_mul_left _ (Nat.pow_le_pow_right (by decide) (by omega))

/-- A quotient has at most as many bits more than the dividend as the exponent of the divisor is
below zero. -/
theorem UpTo.div {n : Nat} {f : Int} {t : Sign} {hn : 0 < n} (hx : UpTo E x)
    (hy : y.toModel.unpack = .finite t n f hn) (hlo : -1074 ≤ E - f + 1) (hhi : E - f + 1 ≤ 971) :
    UpTo (E - f + 1) (x / y) := by
  have hxc := isCanonical_unpack x
  unfold UpTo at *
  rw [unpack_div, hy]
  refine ExponentLe.unpack_pack ?_ hlo hhi
  generalize x.toModel.unpack = a at *
  cases a with
  | notANumber => exact hx.elim
  | infinity s => exact hx.elim
  | zero s => trivial
  | finite s m e hm =>
    have he : e ≤ E := hx
    have hmlt := (hxc s m e hm rfl).mantissa_lt
    simp only [UnpackedFloat.div, divCore]
    generalize Format.binary64.targetExponent (totalExponent m e - totalExponent n f) = T
    refine exponentLe_roundWithAccuracy hlo (by omega) ?_ _ _
    rw [Nat.shiftLeft_eq]
    calc m * 2 ^ (e - f - min (e - f) T).toNat / n ≤ m * 2 ^ (e - f - min (e - f) T).toNat :=
          Nat.div_le_self _ _
      _ < 2 ^ 53 * 2 ^ (e - f - min (e - f) T).toNat :=
        Nat.mul_lt_mul_of_pos_right hmlt (by positivity)
      _ ≤ (2 ^ 53 - 1) * 2 ^ ((e - f - min (e - f) T).toNat + 1) := by
        rw [pow_succ]
        have hpos : 0 < 2 ^ (e - f - min (e - f) T).toNat := by positivity
        omega
      _ ≤ (2 ^ 53 - 1) * 2 ^ (E - f + 1 - min (e - f) T).toNat :=
        Nat.mul_le_mul_left _ (Nat.pow_le_pow_right (by decide) (by omega))

/-! ## Nine tenths -/

theorem unpack_nineTenths : (0.9 : Float).toModel.unpack =
    .finite .positive 0x1c_cccc_cccc_cccd (-53) (by decide) := rfl

/-- The product is infinite or NaN exactly if the number is: the mantissa of 0.9 leaves room for
what rounding may carry into that of the greatest number. -/
theorem isFinite_mul_nineTenths (x : Float) : (x * 0.9).isFinite = x.isFinite := by
  have hxc := isCanonical_unpack x
  change (x * 0.9).toModel.unpack.isFinite = x.toModel.unpack.isFinite
  rw [unpack_mul, unpack_nineTenths]
  generalize x.toModel.unpack = a at *
  cases a with
  | notANumber => rfl
  | infinity s => cases s <;> rfl
  | zero s => cases s <;> rfl
  | finite s m e hm =>
    obtain ⟨hmlt, hlo, hhi, _⟩ := hxc s m e hm rfl
    have hproduct : ExponentLe 971 (UnpackedFloat.mul Format.binary64 (.finite s m e hm)
        (.finite .positive 0x1c_cccc_cccc_cccd (-53) (by decide))) := by
      refine exponentLe_roundWithAccuracy (by decide) (by omega) ?_ _ _
      calc m * 0x1c_cccc_cccc_cccd < (2 ^ 53 - 1) * 2 ^ 53 := by omega
        _ ≤ (2 ^ 53 - 1) * 2 ^ (971 - (e + -53)).toNat :=
          Nat.mul_le_mul_left _ (Nat.pow_le_pow_right (by decide) (by omega))
    exact (hproduct.unpack_pack (by decide) (by decide)).isFinite

/-! ## Spans in seconds -/

theorem upTo_toFloat (n : UInt64) : UpTo 12 n.toFloat := by
  have hlt := n.toNat_lt
  have hnormal : ExponentLe 12 (UnpackedFloat.normalize Format.binary64 (n.toNat : Int) 0
      .positive) := by
    refine exponentLe_normalize (by decide) (by decide) ?_ _
    rw [Int.natAbs_natCast]
    exact hlt.trans_le (by decide)
  exact hnormal.unpack_pack (by decide) (by decide)

/-- A whole number that is not exact for certain is scaled by `2^53` and rounded. -/
theorem ofScientific_whole {n : Nat} (hn : n ≠ 0) :
    UnpackedFloat.ofScientific Format.binary64 n 0 =
      roundWithAccuracy Format.binary64 .positive (n * 2 ^ 53) (-53) .exact := by
  have hbits : (2 ^ Format.binary64.exponentBits : Int) = 2048 := rfl
  have hmantissa : n <<< Format.binary64.mantissaBits * 10 ^ (0 : Int).toNat = n * 2 ^ 53 := by
    rw [Nat.shiftLeft_eq]
    exact Nat.mul_one _
  have hexponent : -(Format.binary64.mantissaBits : Int) + 0 = -53 := rfl
  unfold UnpackedFloat.ofScientific
  rw [dif_neg hn, if_neg (by omega), if_neg (by omega), if_pos (Int.le_refl 0)]
  simp only [UnpackedFloat.mul]
  rw [hmantissa, hexponent]
  rfl

/-- Numbers that are exact in binary64 and greater ones are converted in two different ways. -/
theorem upTo_ofNat {n : Nat} (h : n < 2 ^ 64) : UpTo 16 (Float.ofNat n) := by
  change UpTo 16 (Float.ofScientific n false 0)
  unfold Float.ofScientific
  split
  · have hone : UpTo (-52) (Float.ofBits 0x3ff0_0000_0000_0000) := Int.le_refl (-52)
    exact ExponentLe.mono ((upTo_toFloat n.toUInt64).mul hone (by decide) (by decide)) (by decide)
  · next hn =>
    have hproduct : ExponentLe 16 (UnpackedFloat.ofScientific Format.binary64 n 0) := by
      rw [ofScientific_whole (by omega)]
      refine exponentLe_roundWithAccuracy (by decide) (by decide) ?_ _ _
      calc n * 2 ^ 53 < 2 ^ 64 * 2 ^ 53 := Nat.mul_lt_mul_of_pos_right h (by decide)
        _ ≤ (2 ^ 53 - 1) * 2 ^ 69 := by norm_num
    exact hproduct.unpack_pack (by decide) (by decide)

theorem unpack_billion : (1000000000.0 : Float).toModel.unpack =
    .finite .positive 0x1d_cd65_0000_0000 (-23) (by decide) := rfl

/-- The longest span has less than `2^64` seconds. -/
theorem isFinite_ofSeconds (d : Span) : (RateNumber.ofSeconds d : Float).isFinite = true := by
  have hsecs : d.secs < 2 ^ 64 := by
    have hle := d.nanos_le
    unfold Span.maxNanos at hle
    unfold Span.secs
    omega
  have hsubsec : d.subsecNanos < 2 ^ 64 := by
    unfold Span.subsecNanos
    omega
  have hfraction : UpTo 40 (Float.ofNat d.subsecNanos / 1000000000.0) :=
    (upTo_ofNat hsubsec).div unpack_billion (by decide) (by decide)
  have hwhole : UpTo 40 (Float.ofNat d.secs) := (upTo_ofNat hsecs).mono (by decide)
  exact (hwhole.add hfraction (by decide) (by decide)).isFinite

end Binary64
end AdaptiveShaper
