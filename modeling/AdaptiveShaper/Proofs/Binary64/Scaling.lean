import AdaptiveShaper.Proofs.Binary64.Kinds

/-!
# Shares and doubles

Rounding may bring a share of a number back to the number, but never beyond it: the exact product is
less than the mantissa of the number, counted in units of its exponent. Twice a finite number is
exact, or infinite if it is beyond all finite numbers.
-/

namespace AdaptiveShaper
namespace Binary64

open Float.Model (UnpackedFloat Format)
open Float.Model.UnpackedFloat

variable {x y b : Float} {n : Nat} {e : Int}

/-! ## Shares -/

/-- A negative number or a zero is at most any positive number, whatever its magnitude. -/
theorem le_of_magnitudeLe {hn : 0 < n} (hx : x.toModel.unpack = .finite .positive n e hn)
    (hy : MagnitudeLe n e y.toModel.unpack) : y ≤ x := by
  rw [le_iff, compare?, hx]
  generalize y.toModel.unpack = a at *
  cases a with
  | notANumber => exact hy.elim
  | infinity s => exact hy.elim
  | zero s => exact ⟨.lt, rfl, rfl⟩
  | finite s m f hm =>
    cases s with
    | negative => exact ⟨.lt, rfl, rfl⟩
    | positive =>
      refine ⟨_, rfl, ?_⟩
      rcases hy with hlt | ⟨rfl, hle⟩
      · rw [Int.compare_eq_lt.mpr hlt]
        rfl
      · rw [Int.compare_eq_eq.mpr rfl]
        exact Nat.isLE_compare.mpr hle

theorem mul_le_self (hx : 1.0 ≤ x) (hpos : 0.0 < b) (hone : b < 1.0) : x * b ≤ x := by
  rcases unpack_of_pos hpos with hinfinity | ⟨n, f, hn, hb⟩
  · have hcompare := lt_iff.mp hone
    rw [compare?, hinfinity] at hcompare
    cases hcompare
  · rcases unpack_of_one_le hx with hinfinity | ⟨m, e, hm, hfinite, hlo⟩
    · rw [le_iff, compare?, unpack_mul, hinfinity, hb]
      change ∃ o, (unpack Format.binary64 (packedInfinity Format.binary64 .positive)).compare
        (.infinity .positive) = some o ∧ o.isLE = true
      rw [unpack_packedInfinity]
      exact ⟨.eq, rfl, rfl⟩
    · obtain ⟨hhi, he, he', _⟩ := isCanonical_unpack x _ m e hm hfinite
      obtain ⟨hf, hlt⟩ := mantissa_lt_of_lt_one hb hone
      refine le_of_magnitudeLe hfinite ?_
      rw [unpack_mul, hfinite, hb]
      refine MagnitudeLe.unpack_pack ?_ hlo he he'
      refine magnitudeLe_roundWithAccuracy he (by omega) hhi ?_ _ _
      have hshift : (e - (e + f)).toNat = (-f).toNat := by omega
      rw [hshift]
      exact Nat.mul_lt_mul_of_pos_left hlt hm

/-! ## Finite numbers as real numbers -/

/-- A finite number as a real number, zero for all other numbers. -/
noncomputable def toReal (x : Float) : ℝ := realPart x.toModel.unpack

theorem not_isNaN_of_isFinite (h : x.isFinite = true) : x.isNaN = false := by
  change x.toModel.unpack.isFinite = true at h
  change x.toModel.unpack.isNaN = false
  cases hx : x.toModel.unpack <;> simp_all [isFinite, isNaN]

theorem extended_of_isFinite (h : x.isFinite = true) : extended x = toReal x := by
  rw [extended, decode_eq]
  apply toEReal_ofUnpacked
  change x.toModel.unpack.isFinite = true at h
  cases hx : x.toModel.unpack <;> simp_all [isFinite, isInf]

theorem le_iff_toReal (hx : x.isFinite = true) (hy : y.isFinite = true) :
    x ≤ y ↔ toReal x ≤ toReal y := by
  rw [le_iff_extended (not_isNaN_of_isFinite hx) (not_isNaN_of_isFinite hy),
    extended_of_isFinite hx, extended_of_isFinite hy, EReal.coe_le_coe_iff]

theorem lt_iff_toReal (hx : x.isFinite = true) (hy : y.isFinite = true) :
    x < y ↔ toReal x < toReal y := by
  rw [lt_iff_not_le (not_isNaN_of_isFinite hx) (not_isNaN_of_isFinite hy), le_iff_toReal hy hx,
    not_le]

theorem le_total (hx : x.isNaN = false) (hy : y.isNaN = false) : x ≤ y ∨ y ≤ x := by
  rw [le_iff_extended hx hy, le_iff_extended hy hx]
  exact LinearOrder.le_total _ _

theorem one_le_toReal (h : 1.0 ≤ x) (hx : x.isFinite = true) : 1 ≤ toReal x := by
  have hone : toReal 1.0 = 1 := by
    rw [toReal, unpack_one]
    norm_num [realPart, isNegative, signed]
  rw [← hone]
  exact (le_iff_toReal rfl hx).mp h

theorem toReal_lt (x : Float) : toReal x < 2 ^ 53 * 2 ^ (971 : Int) := by
  have hcanonical := isCanonical_unpack x
  unfold toReal
  cases hx : x.toModel.unpack with
  | finite s m e hm =>
    obtain ⟨hhi, _, he, _⟩ := hcanonical s m e hm hx
    have hmantissa : (m : ℝ) < 2 ^ 53 := by exact_mod_cast hhi
    have hmagnitude : (m * 2 ^ e : ℝ) < 2 ^ 53 * 2 ^ (971 : Int) := by
      calc (m * 2 ^ e : ℝ) < 2 ^ 53 * 2 ^ e := by gcongr
        _ ≤ 2 ^ 53 * 2 ^ (971 : Int) := by
          gcongr
          norm_num
    cases s with
    | positive => exact hmagnitude
    | negative =>
      have hnonneg : (0 : ℝ) ≤ m * 2 ^ e := by positivity
      exact (neg_nonpos.mpr hnonneg).trans_lt (by positivity)
  | _ =>
    simp only [realPart]
    positivity

/-! ## Twice a number -/

theorem toReal_double (hone : 1.0 ≤ x) (h : (x * 2.0).isFinite = true) :
    toReal (x * 2.0) = 2 * toReal x := by
  change (x * 2.0).toModel.unpack.isFinite = true at h
  unfold toReal
  rcases unpack_of_one_le hone with hx | ⟨m, e, hm, hx, hlo⟩
  · rw [unpack_double_infinity hx] at h
    cases h
  · rw [unpack_double_normal hx hlo] at h ⊢
    split at h
    · next he =>
      rw [if_pos he, hx]
      simp only [realPart, isNegative, signed, zpow_add_one₀ (two_ne_zero' ℝ)]
      simp
      ring
    · cases h

theorem toReal_lt_double (hone : 1.0 ≤ x) (hx : x.isFinite = true)
    (h : (x * 2.0).isFinite = false) (y : Float) : toReal y < 2 * toReal x := by
  change x.toModel.unpack.isFinite = true at hx
  change (x * 2.0).toModel.unpack.isFinite = false at h
  refine (toReal_lt y).trans_le ?_
  unfold toReal
  rcases unpack_of_one_le hone with hinfinity | ⟨m, e, hm, hfinite, hlo⟩
  · rw [hinfinity] at hx
    cases hx
  · rw [unpack_double_normal hfinite hlo] at h
    split at h
    · cases h
    · next he =>
      have hmantissa : (2 : ℝ) ^ 52 ≤ m := by exact_mod_cast hlo
      rw [hfinite]
      change (2 : ℝ) ^ 53 * 2 ^ (971 : Int) ≤ 2 * (m * 2 ^ e)
      have hbound : (2 ^ 52 * 2 ^ (971 : Int) : ℝ) ≤ m * 2 ^ e := by
        gcongr
        · norm_num
        · omega
      linarith only [hbound]

/-- A finite number up to twice a number is so as a real number, even if that is not finite. -/
theorem toReal_le_double (hone : 1.0 ≤ x) (hx : x.isFinite = true) (hy : y.isFinite = true)
    (h : y ≤ x * 2.0) : toReal y ≤ 2 * toReal x := by
  cases hdouble : (x * 2.0).isFinite with
  | false => exact (toReal_lt_double hone hx hdouble y).le
  | true =>
    rw [← toReal_double hone hdouble]
    exact (le_iff_toReal hy hdouble).mp h

end Binary64
end AdaptiveShaper
