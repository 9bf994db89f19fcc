import AdaptiveShaper.Proofs.Binary64.Order
import Mathlib

/-!
# Binary64 numbers among the extended reals

The word of a number can be decoded to a value, or unpacked into the form that arithmetic and
comparisons are defined on. Both give the same value, and the numbers other than NaN are compared
like the extended real numbers that they stand for.
-/

namespace AdaptiveShaper
namespace Binary64

open Float.Model (UnpackedFloat Format)
open Float.Model.UnpackedFloat

/-! ## Fields of a word -/

theorem toNat_unpackMantissa (b : BitVec 64) :
    (@unpackMantissa Format.binary64 b).toNat = b.toNat % 0x10_0000_0000_0000 := by
  simp [unpackMantissa, BitVec.extractLsb_toNat]

theorem toNat_unpackExponent (b : BitVec 64) :
    (@unpackExponent Format.binary64 b).toNat =
      b.toNat / 0x10_0000_0000_0000 % 0x800 := by
  simp [unpackExponent, BitVec.extractLsb_toNat, Nat.shiftRight_eq_div_pow]

theorem toNat_unpackSign (b : BitVec 64) :
    (@unpackSign Format.binary64 b).toNat = b.toNat / 0x8000_0000_0000_0000 := by
  have hlt : b.toNat < 0x1_0000_0000_0000_0000 := b.isLt
  simp only [unpackSign, BitVec.toNat_cast, BitVec.extractLsb_toNat, Nat.shiftRight_eq_div_pow]
  omega

/-- A mantissa with the leading bit that words of normal numbers leave out. -/
theorem toNat_implicit (f : BitVec 52) : (1#1 ++ f).toNat = f.toNat + 0x10_0000_0000_0000 := by
  rw [BitVec.toNat_append, ← Nat.shiftLeft_add_eq_or_of_lt f.isLt, Nat.add_comm]
  rfl

/-! ## One value for both views -/

def isNegative : Sign → Bool
  | .negative => true
  | .positive => false

theorem isNegative_ofBitVec (s : BitVec 1) :
    isNegative (Sign.ofBitVec s) = decide (s.toNat = 1) := by
  revert s
  decide

/-- The value of an unpacked number. -/
def Value.ofUnpacked : UnpackedFloat → Value
  | .notANumber => .nan
  | .infinity s => .infinite (isNegative s)
  | .zero s => .finite (isNegative s) 0 (-1074)
  | .finite s m e _ => .finite (isNegative s) m e

theorem ofUnpacked_unpack (b : BitVec 64) :
    Value.ofUnpacked (unpack Format.binary64 b) = decodeBits b.toNat := by
  have hm := toNat_unpackMantissa b
  have he := toNat_unpackExponent b
  have hlt : b.toNat < 0x1_0000_0000_0000_0000 := b.isLt
  have hnegative : isNegative (Sign.ofBitVec (@unpackSign Format.binary64 b)) =
      decide (0x8000_0000_0000_0000 ≤ b.toNat) := by
    rw [isNegative_ofBitVec, toNat_unpackSign]
    exact decide_eq_decide.mpr (by omega)
  have hones : (-1#_ : BitVec Format.binary64.exponentBits).toNat = 0x7ff := rfl
  unfold unpack decodeBits
  simp only [← BitVec.toNat_inj, he, hm, hones, BitVec.toNat_zero]
  split
  · split
    · simp [Value.ofUnpacked, hnegative]
    · rfl
  · split
    · split
      · simp [Value.ofUnpacked, *]
      · simp [Value.ofUnpacked, *]
        rfl
    · simp only [Value.ofUnpacked, hnegative]
      rw [toNat_implicit, hm]
      rfl

theorem decode_eq (x : Float) : decode x = .ofUnpacked x.toModel.unpack :=
  (ofUnpacked_unpack _).symm

/-- The mantissas and exponents of finite numbers: a number with less than 53 bits has the least
exponent. -/
structure Canonical (m : Nat) (e : Int) : Prop where
  mantissa_lt : m < 0x20_0000_0000_0000
  le_exponent : -1074 ≤ e
  exponent_le : e ≤ 971
  normal : e = -1074 ∨ 0x10_0000_0000_0000 ≤ m

theorem canonical_of_decode {x : Float} {negative : Bool} {m : Nat} {e : Int}
    (h : decode x = .finite negative m e) : Canonical m e := by
  unfold decode decodeBits at h
  simp only [Int.ofNat_eq_natCast] at h
  split at h
  · split at h <;> cases h
  · split at h
    · cases h
      constructor <;> omega
    · cases h
      constructor <;> omega

/-! ## Extended reals -/

noncomputable def signed (negative : Bool) (x : ℝ) : ℝ := if negative then -x else x

/-- A value as an extended real number; zero if it is no number. -/
noncomputable def Value.toEReal : Value → EReal
  | .nan => 0
  | .infinite negative => if negative then ⊥ else ⊤
  | .finite negative m e => (signed negative (m * 2 ^ e) : ℝ)

noncomputable def extended (x : Float) : EReal := (decode x).toEReal

variable {m n : Nat} {e f : Int}

theorem magnitude_lt_of_exponent_lt (hm : Canonical m e) (hn : Canonical n f) (h : e < f) :
    (m * 2 ^ e : ℝ) < n * 2 ^ f := by
  have hexp := hm.le_exponent
  have hnormal : 0x10_0000_0000_0000 ≤ n := hn.normal.resolve_left (by omega)
  have hmR : (m : ℝ) < 2 ^ 53 := by exact_mod_cast hm.mantissa_lt
  have hnR : (2 : ℝ) ^ 52 ≤ n := by exact_mod_cast hnormal
  calc (m * 2 ^ e : ℝ) < 2 ^ 53 * 2 ^ e := by gcongr
    _ = 2 ^ 52 * 2 ^ (e + 1) := by
      rw [zpow_add₀ two_ne_zero]
      ring
    _ ≤ n * 2 ^ f := by
      gcongr
      · norm_num
      · omega

/-- In canonical form exponents are compared first, then mantissas. -/
theorem compares_magnitude (hm : Canonical m e) (hn : Canonical n f) :
    ((compare e f).then (compare m n)).Compares (m * 2 ^ e : ℝ) (n * 2 ^ f) := by
  rcases lt_trichotomy e f with h | rfl | h
  · rw [Int.compare_eq_lt.mpr h]
    exact magnitude_lt_of_exponent_lt hm hn h
  · rw [Int.compare_eq_eq.mpr rfl]
    have hpos : (0 : ℝ) < 2 ^ e := by positivity
    rcases lt_trichotomy m n with h | rfl | h
    · rw [Nat.compare_eq_lt.mpr h]
      exact mul_lt_mul_of_pos_right (Nat.cast_lt.mpr h) hpos
    · rw [Nat.compare_eq_eq.mpr rfl]
      rfl
    · rw [Nat.compare_eq_gt.mpr h]
      exact mul_lt_mul_of_pos_right (Nat.cast_lt.mpr h) hpos
  · rw [Int.compare_eq_gt.mpr h]
    exact magnitude_lt_of_exponent_lt hn hm h

theorem compares_coe {x y : ℝ} {o : Ordering} (h : o.Compares x y) :
    o.Compares (x : EReal) (y : EReal) := by
  cases o with
  | lt => exact EReal.coe_lt_coe h
  | eq => exact congrArg _ h
  | gt => exact EReal.coe_lt_coe h

theorem compares_neg {x y : ℝ} {o : Ordering} (h : o.Compares x y) :
    o.swap.Compares (-x) (-y) := by
  cases o with
  | lt => exact neg_lt_neg h
  | eq => exact congrArg _ h
  | gt => exact neg_lt_neg h

/-- An unpacked number as a real number, zero if it is infinite. -/
noncomputable def realPart : UnpackedFloat → ℝ
  | .finite s m e _ => signed (isNegative s) (m * 2 ^ e)
  | _ => 0

theorem toEReal_ofUnpacked {a : UnpackedFloat} (h : a.isInf = false) :
    (Value.ofUnpacked a).toEReal = (realPart a : ℝ) := by
  cases a with
  | notANumber => rfl
  | infinity s => cases h
  | zero s => cases s <;> simp [Value.ofUnpacked, Value.toEReal, realPart, signed]
  | finite s m e hm => rfl

/-- What the mantissa and the exponent of an unpacked number have to be. -/
def IsCanonical (a : UnpackedFloat) : Prop :=
  ∀ s m e hm, a = .finite s m e hm → Canonical m e

theorem compares_zero {s t : Sign} {hm : 0 < m} {o : Ordering}
    (h : (zero s).compare (.finite t m e hm) = some o) :
    o.Compares (realPart (zero s)) (realPart (.finite t m e hm)) := by
  have hpos : (0 : ℝ) < m * 2 ^ e := by positivity
  cases t with
  | negative =>
    cases h
    exact neg_lt_zero.mpr hpos
  | positive =>
    cases h
    exact hpos

/-- Of numbers with different signs the negative one is less; otherwise the magnitudes decide. -/
theorem compares_finite {s t : Sign} {hm : 0 < m} {hn : 0 < n} {o : Ordering}
    (hboth : ((compare e f).then (compare m n)).Compares (m * 2 ^ e : ℝ) (n * 2 ^ f))
    (h : (finite s m e hm).compare (.finite t n f hn) = some o) :
    o.Compares (realPart (.finite s m e hm)) (realPart (.finite t n f hn)) := by
  have hleft : (0 : ℝ) < m * 2 ^ e := by positivity
  have hright : (0 : ℝ) < n * 2 ^ f := by positivity
  cases s with
  | negative =>
    cases t with
    | negative =>
      cases h
      exact compares_neg hboth
    | positive =>
      cases h
      exact (neg_lt_zero.mpr hleft).trans hright
  | positive =>
    cases t with
    | negative =>
      cases h
      exact (neg_lt_zero.mpr hright).trans hleft
    | positive =>
      cases h
      exact hboth

theorem compares_realPart {a b : UnpackedFloat} {o : Ordering} (ha : IsCanonical a)
    (hb : IsCanonical b) (hfa : a.isFinite = true) (hfb : b.isFinite = true)
    (h : a.compare b = some o) : o.Compares (realPart a) (realPart b) := by
  cases a with
  | notANumber => cases hfa
  | infinity s => cases hfa
  | zero s =>
    cases b with
    | notANumber => cases hfb
    | infinity t => cases hfb
    | zero t =>
      cases h
      rfl
    | finite t n f hn => exact compares_zero h
  | finite s m e hm =>
    cases b with
    | notANumber => cases hfb
    | infinity t => cases hfb
    | zero t =>
      have hswap : (zero t).compare (.finite s m e hm) = some o.swap := by
        rw [compare_swap, h]
        rfl
      exact Ordering.compares_swap.mp (compares_zero hswap)
    | finite t n f hn =>
      exact compares_finite (compares_magnitude (ha s m e hm rfl) (hb t n f hn rfl)) h

/-- Infinities lie beyond all real numbers. -/
theorem compares_infinity_left {s : Sign} {b : UnpackedFloat} {o : Ordering}
    (hb : b.isFinite = true) (h : (infinity s).compare b = some o) :
    o.Compares (Value.ofUnpacked (infinity s)).toEReal (realPart b : EReal) := by
  cases s with
  | negative =>
    have ho : o = .lt := by
      cases b <;> cases hb <;> exact (Option.some.inj h).symm
    rw [ho]
    exact EReal.bot_lt_coe _
  | positive =>
    have ho : o = .gt := by
      cases b <;> cases hb <;> exact (Option.some.inj h).symm
    rw [ho]
    exact EReal.coe_lt_top _

theorem compares_infinity {s t : Sign} {o : Ordering}
    (h : (infinity s).compare (infinity t) = some o) :
    o.Compares (Value.ofUnpacked (infinity s)).toEReal (Value.ofUnpacked (infinity t)).toEReal := by
  cases s <;> cases t <;> cases h
  · exact rfl
  · exact bot_lt_top
  · exact bot_lt_top
  · exact rfl

theorem isCanonical_unpack (x : Float) : IsCanonical x.toModel.unpack := by
  intro s m e hm h
  have hdecode : decode x = .finite (isNegative s) m e := by
    rw [decode_eq, h]
    rfl
  exact canonical_of_decode hdecode

theorem compares_of_compare? {x y : Float} {o : Ordering} (h : compare? x y = some o) :
    o.Compares (extended x) (extended y) := by
  have hx := isCanonical_unpack x
  have hy := isCanonical_unpack y
  obtain ⟨hnx, hny⟩ := not_isNaN_of_compare? h
  have hfinite : ∀ a : UnpackedFloat, a.isNaN = false → a.isInf = false → a.isFinite = true := by
    intro a
    cases a <;> simp [isNaN, isInf, isFinite]
  rw [extended, extended, decode_eq, decode_eq]
  change x.toModel.unpack.isNaN = false at hnx
  change y.toModel.unpack.isNaN = false at hny
  change x.toModel.unpack.compare y.toModel.unpack = some o at h
  generalize x.toModel.unpack = a at *
  generalize y.toModel.unpack = b at *
  cases hia : a.isInf with
  | false =>
    have hfa := hfinite a hnx hia
    rw [toEReal_ofUnpacked hia]
    cases hib : b.isInf with
    | false =>
      rw [toEReal_ofUnpacked hib]
      exact compares_coe (compares_realPart hx hy hfa (hfinite b hny hib) h)
    | true =>
      obtain ⟨t, rfl⟩ : ∃ t, b = infinity t := by cases b <;> simp_all [isInf]
      have hswap : (infinity t).compare a = some o.swap := by
        rw [compare_swap, h]
        rfl
      exact Ordering.compares_swap.mp (compares_infinity_left hfa hswap)
  | true =>
    obtain ⟨s, rfl⟩ : ∃ s, a = infinity s := by cases a <;> simp_all [isInf]
    cases hib : b.isInf with
    | false =>
      rw [toEReal_ofUnpacked hib]
      exact compares_infinity_left (hfinite b hny hib) h
    | true =>
      obtain ⟨t, rfl⟩ : ∃ t, b = infinity t := by cases b <;> simp_all [isInf]
      exact compares_infinity h

theorem le_iff_extended {x y : Float} (hx : x.isNaN = false) (hy : y.isNaN = false) :
    x ≤ y ↔ extended x ≤ extended y := by
  obtain ⟨o, ho⟩ := exists_compare? hx hy
  have hcompares := compares_of_compare? ho
  rw [← hcompares.ne_gt, le_iff, ho]
  cases o <;> simp

theorem extended_le {x y : Float} (h : x ≤ y) : extended x ≤ extended y := by
  obtain ⟨o, ho, _⟩ := le_iff.mp h
  obtain ⟨hx, hy⟩ := not_isNaN_of_compare? ho
  exact (le_iff_extended hx hy).mp h

theorem le_trans {x y z : Float} (h : x ≤ y) (h' : y ≤ z) : x ≤ z := by
  obtain ⟨o, ho, _⟩ := le_iff.mp h
  obtain ⟨p, hp, _⟩ := le_iff.mp h'
  rw [le_iff_extended (not_isNaN_of_compare? ho).1 (not_isNaN_of_compare? hp).2]
  exact (extended_le h).trans (extended_le h')

end Binary64
end AdaptiveShaper
