import AdaptiveShaper.Proofs.Binary64.Range
import AdaptiveShaper.Rate.Controller

/-!
# Which results are numbers

NaN comes from an infinity less the same infinity, zero times an infinity, and quotients of two
zeros or two infinities; rounding and packing add none. So the recovery curve is a number at every
step if the reference is finite. Through an infinite reference it is nowhere one: each step keeps
the infinity with its sign or loses it to NaN, until the last one adds the opposite infinity.
-/

namespace AdaptiveShaper
namespace Binary64

open Float.Model (UnpackedFloat Format)
open Float.Model.UnpackedFloat

/-! ## Rounding and packing -/

theorem isNaN_roundWithAccuracy (s : Sign) (m : Nat) (e : Int) (acc : Accuracy) :
    (roundWithAccuracy Format.binary64 s m e acc).isNaN = false := by
  unfold roundWithAccuracy
  simp only
  split <;> rfl

theorem isNaN_round (s : Sign) (m : Nat) (e : Int) :
    (UnpackedFloat.round Format.binary64 s m e).isNaN = false :=
  isNaN_roundWithAccuracy _ _ _ _

theorem isNaN_normalize (n e : Int) (s : Sign) :
    (UnpackedFloat.normalize Format.binary64 n e s).isNaN = false := by
  unfold UnpackedFloat.normalize
  split
  · exact isNaN_round _ _ _
  · rfl
  · exact isNaN_round _ _ _

theorem isNaN_unpack_pack (a : UnpackedFloat) :
    (unpack Format.binary64 (pack Format.binary64 a)).isNaN = a.isNaN := by
  cases a with
  | notANumber => rfl
  | infinity s => exact congrArg UnpackedFloat.isNaN (unpack_packedInfinity s)
  | zero s => cases s <;> rfl
  | finite s m e hm =>
    by_cases he : e ≤ 971
    · have hfinite : ExponentLe 971 (.finite s m e hm) := he
      have hpacked := hfinite.unpack_pack (by decide) (by decide)
      revert hpacked
      cases unpack Format.binary64 (pack Format.binary64 (.finite s m e hm)) with
      | notANumber => exact False.elim
      | _ => exact fun _ => rfl
    · rw [unpack_pack_overflow s (by omega) hm]
      rfl

/-! ## Arithmetic -/

/-- Whether a number is finite and not zero. -/
def FiniteNonzero (x : Float) : Prop := ∃ s m e hm, x.toModel.unpack = .finite s m e hm

/-- Whether `x` is finite and greater than zero. -/
def FinitePositive (x : Float) : Prop := ∃ m e hm, x.toModel.unpack = .finite .positive m e hm

variable {x y : Float}

theorem FinitePositive.finiteNonzero (h : FinitePositive x) : FiniteNonzero x := by
  obtain ⟨m, e, hm, hx⟩ := h
  exact ⟨.positive, m, e, hm, hx⟩

theorem unpack_of_pos (h : 0.0 < x) :
    x.toModel.unpack = .infinity .positive ∨ FinitePositive x := by
  have hcompare := lt_iff.mp h
  have hzero : (0.0 : Float).toModel.unpack = .zero .positive := rfl
  rw [compare?, hzero] at hcompare
  cases hx : x.toModel.unpack with
  | notANumber =>
    rw [hx] at hcompare
    cases hcompare
  | infinity s =>
    rw [hx] at hcompare
    cases s with
    | positive => exact .inl rfl
    | negative => cases hcompare
  | zero s =>
    rw [hx] at hcompare
    cases hcompare
  | finite s m e hm =>
    rw [hx] at hcompare
    cases s with
    | positive => exact .inr ⟨m, e, hm, hx⟩
    | negative => cases hcompare

theorem finitePositive_of_pos (hpos : 0.0 < x) (hx : x.isFinite = true) : FinitePositive x := by
  obtain hinfinity | hfinite := unpack_of_pos hpos
  · change x.toModel.unpack.isFinite = true at hx
    rw [hinfinity] at hx
    cases hx
  · exact hfinite

/-- Between one and a finite number all numbers are finite and not zero. -/
theorem finiteNonzero_of_le (hone : 1.0 ≤ x) (hle : x ≤ y) (hy : y.isFinite = true) :
    FiniteNonzero x := by
  obtain hx | ⟨m, e, hm, hx, _⟩ := unpack_of_one_le hone
  · obtain ⟨o, ho, hordered⟩ := le_iff.mp hle
    change y.toModel.unpack.isFinite = true at hy
    rw [compare?, hx] at ho
    cases hb : y.toModel.unpack with
    | notANumber =>
      rw [hb] at hy
      cases hy
    | infinity t =>
      rw [hb] at hy
      cases hy
    | zero t =>
      rw [hb] at ho
      cases ho
      cases hordered
    | finite t n f hn =>
      rw [hb] at ho
      cases ho
      cases hordered
  · exact ⟨.positive, m, e, hm, hx⟩

theorem FiniteNonzero.isFinite (h : FiniteNonzero x) : x.isFinite = true := by
  obtain ⟨s, m, e, hm, hx⟩ := h
  change x.toModel.unpack.isFinite = true
  rw [hx]
  rfl

theorem unpack_sub (x y : Float) : (x - y).toModel.unpack =
    unpack Format.binary64 (pack Format.binary64
      (sub Format.binary64 x.toModel.unpack y.toModel.unpack)) := rfl

theorem isNaN_sub (hx : x.isFinite = true) (hy : y.isNaN = false) : (x - y).isNaN = false := by
  change x.toModel.unpack.isFinite = true at hx
  change y.toModel.unpack.isNaN = false at hy
  change (x - y).toModel.unpack.isNaN = false
  rw [unpack_sub, isNaN_unpack_pack]
  generalize x.toModel.unpack = a at *
  generalize y.toModel.unpack = b at *
  cases a with
  | notANumber => cases hx
  | infinity s => cases hx
  | zero s =>
    cases b with
    | notANumber => cases hy
    | infinity t => rfl
    | zero t =>
      simp only [UnpackedFloat.sub]
      split <;> rfl
    | finite t n f hn => rfl
  | finite s m e hm =>
    cases b with
    | notANumber => cases hy
    | infinity t => rfl
    | zero t => rfl
    | finite t n f hn => exact isNaN_normalize _ _ _

theorem isNaN_add (hx : x.isNaN = false) (hy : y.isFinite = true) : (x + y).isNaN = false := by
  change x.toModel.unpack.isNaN = false at hx
  change y.toModel.unpack.isFinite = true at hy
  change (x + y).toModel.unpack.isNaN = false
  rw [unpack_add, isNaN_unpack_pack]
  generalize x.toModel.unpack = a at *
  generalize y.toModel.unpack = b at *
  cases b with
  | notANumber => cases hy
  | infinity t => cases hy
  | zero t =>
    cases a with
    | notANumber => cases hx
    | infinity s => rfl
    | zero s =>
      simp only [UnpackedFloat.add]
      split <;> rfl
    | finite s m e hm => rfl
  | finite t n f hn =>
    cases a with
    | notANumber => cases hx
    | infinity s => rfl
    | zero s => rfl
    | finite s m e hm => exact isNaN_normalize _ _ _

theorem isNaN_mul (hx : FiniteNonzero x) (hy : y.isNaN = false) : (x * y).isNaN = false := by
  obtain ⟨s, m, e, hm, hx⟩ := hx
  change y.toModel.unpack.isNaN = false at hy
  change (x * y).toModel.unpack.isNaN = false
  rw [unpack_mul, isNaN_unpack_pack, hx]
  generalize y.toModel.unpack = b at *
  cases b with
  | notANumber => cases hy
  | infinity t => rfl
  | zero t => rfl
  | finite t n f hn => exact isNaN_roundWithAccuracy _ _ _ _

theorem isNaN_div (hx : x.isNaN = false) (hy : FiniteNonzero y) : (x / y).isNaN = false := by
  obtain ⟨t, n, f, hn, hy⟩ := hy
  change x.toModel.unpack.isNaN = false at hx
  change (x / y).toModel.unpack.isNaN = false
  rw [unpack_div, isNaN_unpack_pack, hy]
  generalize x.toModel.unpack = a at *
  cases a with
  | notANumber => cases hx
  | infinity s => rfl
  | zero s => rfl
  | finite s m e hm => exact isNaN_roundWithAccuracy _ _ _ _

/-- In a third power zeros and infinities do not meet. -/
theorem isNaN_cube (hx : x.isNaN = false) : (Recovery.cube x).isNaN = false := by
  change (x * (x * x)).isNaN = false
  cases h : x.toModel.unpack with
  | notANumber =>
    change x.toModel.unpack.isNaN = false at hx
    rw [h] at hx
    cases hx
  | infinity s =>
    change (x * (x * x)).toModel.unpack.isNaN = false
    rw [unpack_mul, unpack_mul, h]
    cases s <;> rfl
  | zero s =>
    change (x * (x * x)).toModel.unpack.isNaN = false
    rw [unpack_mul, unpack_mul, h]
    cases s <;> rfl
  | finite s m e hm =>
    have hproper : FiniteNonzero x := ⟨s, m, e, hm, h⟩
    exact isNaN_mul hproper (isNaN_mul hproper hx)

theorem isNaN_nearest (negative : Bool) (m : Nat) (e : Int) :
    (nearest negative m e).isNaN = false := by
  unfold nearest
  simp only
  split
  · exact isNaN_unpack_pack _
  · exact (isNaN_unpack_pack _).trans (isNaN_round _ _ _)

theorem isNaN_cubeRoot (hx : x.isNaN = false) : (cubeRoot x).isNaN = false := by
  unfold cubeRoot
  split
  · exact hx
  · exact hx
  · split
    · exact hx
    · exact isNaN_nearest _ _ _

/-! ## The recovery curve -/

theorem isNaN_recoveryRate {reference elapsed b c : Float} (hreference : FiniteNonzero reference)
    (helapsed : elapsed.isFinite = true) (hb : b.isNaN = false) (hc : FiniteNonzero c) :
    (Recovery.rate reference elapsed b c).isNaN = false := by
  have hone : (1.0 : Float).isFinite = true := rfl
  have hshare : (1.0 - b).isNaN = false := isNaN_sub hone hb
  have hinflection : (Recovery.inflection reference b c).isNaN = false :=
    isNaN_cubeRoot (isNaN_div (isNaN_mul hreference hshare) hc)
  have hcube := isNaN_cube (isNaN_sub helapsed hinflection)
  exact isNaN_add (isNaN_mul hc hcube) hreference.isFinite

/-! ## Signs -/

/-- Whether a number, if it is not NaN, has the sign `s`. -/
def HasSign (s : Sign) : UnpackedFloat → Prop
  | .notANumber => True
  | .infinity t => t = s
  | .zero t => t = s
  | .finite t _ _ _ => t = s

theorem hasSign_roundWithAccuracy (s : Sign) (m : Nat) (e : Int) (acc : Accuracy) :
    HasSign s (roundWithAccuracy Format.binary64 s m e acc) := by
  unfold roundWithAccuracy
  simp only
  split <;> rfl

theorem hasSign_normalize {n : Int} (hn : 0 < n) (e : Int) (s : Sign) :
    HasSign .positive (UnpackedFloat.normalize Format.binary64 n e s) := by
  unfold UnpackedFloat.normalize
  rw [Int.compare_eq_gt.mpr hn]
  exact hasSign_roundWithAccuracy _ _ _ _

theorem hasSign_unpack_packComponents (s : Sign) (x : BitVec 11) (f : BitVec 52) :
    HasSign s (unpack Format.binary64 (packComponents Format.binary64 s x f)) := by
  unfold unpack
  simp only [unpackExponent_packComponents, unpackMantissa_packComponents,
    unpackSign_packComponents, Sign.ofBitVec_toBitVec]
  split
  · split <;> trivial
  · split
    · split <;> rfl
    · rfl

theorem HasSign.unpack_pack {s : Sign} {a : UnpackedFloat} (h : HasSign s a) :
    HasSign s (unpack Format.binary64 (pack Format.binary64 a)) := by
  cases a with
  | notANumber => trivial
  | infinity t =>
    rw [pack, unpack_packedInfinity]
    exact h
  | zero t =>
    cases h
    exact hasSign_unpack_packComponents _ _ _
  | finite t m e hm =>
    cases h
    unfold pack
    simp only
    split
    · rw [unpack_packedInfinity]
      rfl
    · split <;> exact hasSign_unpack_packComponents _ _ _

/-- Below one the exponent takes away more than there is of the mantissa. -/
theorem mantissa_lt_of_lt_one {m : Nat} {e : Int} {hm : 0 < m}
    (hx : x.toModel.unpack = .finite .positive m e hm) (hone : x < 1.0) :
    e ≤ -52 ∧ m < 2 ^ (-e).toNat := by
  have hcompare := lt_iff.mp hone
  have hmlt := (isCanonical_unpack x _ m e hm hx).mantissa_lt
  rw [compare?, hx, unpack_one] at hcompare
  -- with the same exponent the mantissas decide, otherwise one has a bit more
  rcases Ordering.then_eq_lt.mp (Option.some.inj hcompare) with hlt | ⟨heq, hlt⟩
  · have he := Int.compare_eq_lt.mp hlt
    have hbits : 53 ≤ (-e).toNat := by omega
    exact ⟨by omega, hmlt.trans_le (Nat.pow_le_pow_right Nat.two_pos hbits)⟩
  · have he := Int.compare_eq_eq.mp heq
    subst he
    exact ⟨le_rfl, Nat.compare_eq_lt.mp hlt⟩

/-- What is left of one without a part of it is not negative. -/
theorem hasSign_one_sub (hpos : 0.0 < x) (hone : x < 1.0) :
    HasSign .positive (1.0 - x).toModel.unpack := by
  rw [unpack_sub, unpack_one]
  obtain hx | ⟨m, e, hm, hx⟩ := unpack_of_pos hpos
  · have hcompare := lt_iff.mp hone
    rw [compare?, hx] at hcompare
    cases hcompare
  · obtain ⟨he, hlt⟩ := mantissa_lt_of_lt_one hx hone
    rw [hx]
    refine HasSign.unpack_pack ?_
    simp only [UnpackedFloat.sub, decreaseExponent, Nat.shiftLeft_eq, Sign.apply]
    refine hasSign_normalize ?_ _ _
    have hmin : min (-52) e = e := by omega
    have hsplit : (-e).toNat = 52 + (-52 - e).toNat := by omega
    rw [hsplit, pow_add] at hlt
    rw [hmin, Int.sub_self, Int.toNat_zero, pow_zero, mul_one]
    omega

/-! ## The curve from an infinite reference -/

/-- Whether a number is NaN or the infinity of the sign `s`. -/
def Escapes (s : Sign) (a : UnpackedFloat) : Prop := a = .notANumber ∨ a = .infinity s

theorem Escapes.unpack_pack {s : Sign} {a : UnpackedFloat} (h : Escapes s a) :
    Escapes s (unpack Format.binary64 (pack Format.binary64 a)) := by
  rcases h with rfl | rfl
  · exact .inl rfl
  · exact .inr (unpack_packedInfinity s)

theorem escapes_infinity_mul (hx : x.toModel.unpack = .infinity .positive)
    (hy : HasSign .positive y.toModel.unpack) : Escapes .positive (x * y).toModel.unpack := by
  rw [unpack_mul, hx]
  refine Escapes.unpack_pack ?_
  generalize y.toModel.unpack = b at *
  cases b with
  | notANumber => exact .inl rfl
  | zero t => exact .inl rfl
  | infinity t =>
    cases hy
    exact .inr rfl
  | finite t n f hn =>
    cases hy
    exact .inr rfl

theorem Escapes.div (h : Escapes .positive x.toModel.unpack) (hy : FinitePositive y) :
    Escapes .positive (x / y).toModel.unpack := by
  obtain ⟨n, f, hn, hy⟩ := hy
  rw [unpack_div, hy]
  refine Escapes.unpack_pack ?_
  rcases h with hx | hx
  · rw [hx]
    exact .inl rfl
  · rw [hx]
    exact .inr rfl

theorem Escapes.cubeRoot {s : Sign} (h : Escapes s x.toModel.unpack) :
    Escapes s (cubeRoot x).toModel.unpack := by
  have hself : Binary64.cubeRoot x = x := by
    unfold Binary64.cubeRoot
    rw [decode_eq]
    rcases h with hx | hx
    · rw [hx]
      rfl
    · rw [hx]
      rfl
  rwa [hself]

theorem Escapes.sub (h : Escapes .positive y.toModel.unpack) (hx : x.isFinite = true) :
    Escapes .negative (x - y).toModel.unpack := by
  change x.toModel.unpack.isFinite = true at hx
  rw [unpack_sub]
  refine Escapes.unpack_pack ?_
  generalize x.toModel.unpack = a at *
  rcases h with hy | hy
  · rw [hy]
    exact .inl (by cases a <;> rfl)
  · rw [hy]
    cases a with
    | notANumber => cases hx
    | infinity s => cases hx
    | zero s => exact .inr rfl
    | finite s m e hm => exact .inr rfl

theorem Escapes.cube (h : Escapes .negative x.toModel.unpack) :
    Escapes .negative (Recovery.cube x).toModel.unpack := by
  change Escapes .negative (x * (x * x)).toModel.unpack
  rw [unpack_mul, unpack_mul]
  rcases h with hx | hx
  · rw [hx]
    exact .inl rfl
  · rw [hx]
    exact .inr rfl

theorem Escapes.mul (h : Escapes .negative y.toModel.unpack) (hx : FinitePositive x) :
    Escapes .negative (x * y).toModel.unpack := by
  obtain ⟨m, e, hm, hx⟩ := hx
  rw [unpack_mul, hx]
  refine Escapes.unpack_pack ?_
  rcases h with hy | hy
  · rw [hy]
    exact .inl rfl
  · rw [hy]
    exact .inr rfl

theorem Escapes.isNaN_add (h : Escapes .negative x.toModel.unpack)
    (hy : y.toModel.unpack = .infinity .positive) : (x + y).isNaN = true := by
  change (x + y).toModel.unpack.isNaN = true
  rw [unpack_add, hy, isNaN_unpack_pack]
  rcases h with hx | hx
  · rw [hx]
    rfl
  · rw [hx]
    rfl

theorem isNaN_recoveryRate_of_infinity {reference elapsed b c : Float}
    (hreference : reference.toModel.unpack = .infinity .positive)
    (helapsed : elapsed.isFinite = true) (hpos : 0.0 < b) (hone : b < 1.0)
    (hc : FinitePositive c) : (Recovery.rate reference elapsed b c).isNaN = true := by
  have hcut : Escapes .positive (reference * (1.0 - b)).toModel.unpack :=
    escapes_infinity_mul hreference (hasSign_one_sub hpos hone)
  have hinflection : Escapes .positive (Recovery.inflection reference b c).toModel.unpack :=
    (hcut.div hc).cubeRoot
  exact ((hinflection.sub helapsed).cube.mul hc).isNaN_add hreference

end Binary64
end AdaptiveShaper
