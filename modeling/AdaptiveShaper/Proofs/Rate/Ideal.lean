import AdaptiveShaper.Proofs.Rate.Steps
import Mathlib.Analysis.SpecialFunctions.Pow.Real

/-!
# The ideal control law

Read with real numbers, the recovery curve is the cubic that it is meant to be: it starts at the cut
rate, passes through the reference at its inflection and never decreases.
-/

namespace AdaptiveShaper

/-! ## Real numbers -/

/-- The real cube root, of negative numbers too. -/
noncomputable def realCubeRoot (x : ℝ) : ℝ :=
  if 0 ≤ x then x ^ (3⁻¹ : ℝ) else -(-x) ^ (3⁻¹ : ℝ)

theorem realCubeRoot_pow (x : ℝ) : realCubeRoot x ^ 3 = x := by
  have hcube : ∀ y : ℝ, 0 ≤ y → (y ^ (3⁻¹ : ℝ)) ^ 3 = y := by
    intro y hy
    have hthree : (3⁻¹ : ℝ) = ((3 : ℕ) : ℝ)⁻¹ := by norm_num
    rw [hthree]
    exact Real.rpow_inv_natCast_pow hy three_ne_zero
  unfold realCubeRoot
  split
  · next hx => exact hcube x hx
  · next hx =>
    have hneg := hcube (-x) (by linarith)
    rw [Odd.neg_pow (by decide), hneg, neg_neg]

theorem cube_strictMono : StrictMono fun x : ℝ => x ^ 3 := Odd.strictMono_pow (by decide)

theorem realCubeRoot_le_iff {x y : ℝ} : realCubeRoot x ≤ y ↔ x ≤ y ^ 3 := by
  have hcube := cube_strictMono.le_iff_le (a := realCubeRoot x) (b := y)
  simp only [realCubeRoot_pow] at hcube
  exact hcube.symm

-- quotients and decimals of real numbers that stand in statements are to be the usual ones
attribute [instance (low)] RateNumber.toDiv RateNumber.toOfScientific

noncomputable instance : RateNumber ℝ where
  ofNat n := n
  cubeRoot := realCubeRoot
  atMost x y := decide (x ≤ y)
  below x y := decide (x < y)
  isNaN _ := false
  isFinite _ := true

instance : OrderedRates ℝ where
  atMost_self x _ := decide_eq_true (le_refl x)
  isNaN_of_atMost _ _ _ := ⟨rfl, rfl⟩
  below_eq x y _ _ := by
    change decide (x < y) = !decide (y ≤ x)
    rw [← decide_not]
    exact decide_eq_decide.mpr not_le.symm

open RateNumber

theorem clamp_real {lo hi : ℝ} (h : lo ≤ hi) (x : ℝ) : clamp lo hi x = max lo (min hi x) := by
  change (if decide (x < lo) = true then lo else if decide (hi < x) = true then hi else x) = _
  simp only [decide_eq_true_eq]
  split_ifs with hlo hhi
  · rw [min_eq_right (by linarith), max_eq_left hlo.le]
  · rw [min_eq_left hhi.le, max_eq_right h]
  · rw [min_eq_right (not_lt.mp hhi), max_eq_right (not_lt.mp hlo)]

/-- The span in seconds, with its fraction. -/
noncomputable def Span.seconds (d : Span) : ℝ := d.nanos / 1000000000

theorem ofSeconds_real (d : Span) : ofSeconds d = d.seconds := by
  have hsplit : (d.nanos : ℝ) = 1000000000 * d.secs + d.subsecNanos := by
    exact_mod_cast (Nat.div_add_mod d.nanos 1000000000).symm
  change ((d.secs : ℝ) + (d.subsecNanos : ℝ) / 1000000000.0) = d.nanos / 1000000000
  rw [hsplit]
  norm_num
  ring

theorem Span.seconds_nonneg (d : Span) : 0 ≤ d.seconds := by
  unfold seconds
  positivity

/-- A later reading is not less far from an earlier one. -/
theorem Instant.seconds_since_mono {a b t : Instant} (h : a.nanos ≤ b.nanos) :
    (a.since t).seconds ≤ (b.since t).seconds := by
  have hle : (a.since t).nanos ≤ (b.since t).nanos := by
    unfold Instant.since
    rw [Span.nanos_ofNanos, Span.nanos_ofNanos]
    omega
  unfold Span.seconds
  gcongr

/-! ## The curve -/

namespace RateSettings

/-- What the checks say of real numbers. -/
structure Sound (s : RateSettings ℝ) : Prop where
  one_le_floor : 1 ≤ s.rateFloorKbit
  floor_le_ceiling : ∀ d, s.rateFloorKbit ≤ s.ceiling d
  backoff_pos : 0 < s.backoffFraction
  backoff_lt_one : s.backoffFraction < 1
  cubic_pos : 0 < s.cubicConstant

theorem Valid.sound {s : RateSettings ℝ} (hs : s.Valid) : s.Sound := by
  have hone := of_decide_eq_true hs.one_atMost_floor
  have hpos := of_decide_eq_true hs.backoff_pos
  have hlt := of_decide_eq_true hs.backoff_lt_one
  have hcubic := of_decide_eq_true hs.cubic_pos
  norm_num at hone hpos hlt hcubic
  exact ⟨hone, fun d => of_decide_eq_true (hs.floor_atMost_ceiling d), hpos, hlt, hcubic⟩

variable {s : RateSettings ℝ} {r t u : ℝ} {d : Direction}

/-- The number nearest to `x` between the floor and the ceiling of a direction. -/
noncomputable def held (s : RateSettings ℝ) (d : Direction) (x : ℝ) : ℝ :=
  max s.rateFloorKbit (min (s.ceiling d) x)

/-- When the curve passes through the reference `r`, in seconds after the cut. -/
noncomputable def inflection (s : RateSettings ℝ) (r : ℝ) : ℝ :=
  realCubeRoot (r * (1 - s.backoffFraction) / s.cubicConstant)

/-- The recovery curve `t` seconds after a cut from the reference `r`. -/
noncomputable def curve (s : RateSettings ℝ) (r t : ℝ) : ℝ :=
  s.cubicConstant * (t - s.inflection r) ^ 3 + r

theorem rate_real (s : RateSettings ℝ) (r t : ℝ) :
    Recovery.rate r t s.backoffFraction s.cubicConstant = s.curve r t := by
  have hinflection : Recovery.inflection r s.backoffFraction s.cubicConstant = s.inflection r := by
    change realCubeRoot (r * (1.0 - s.backoffFraction) / s.cubicConstant) = s.inflection r
    rw [inflection]
    norm_num
  unfold Recovery.rate Recovery.cube curve
  rw [hinflection]
  ring

theorem held_mono (s : RateSettings ℝ) (d : Direction) : Monotone (s.held d) := by
  intro x y h
  unfold held
  gcongr

theorem Sound.curve_mono (hs : s.Sound) (h : t ≤ u) : s.curve r t ≤ s.curve r u := by
  have hpos := hs.cubic_pos
  have hcube : (t - s.inflection r) ^ 3 ≤ (u - s.inflection r) ^ 3 :=
    cube_strictMono.monotone (by linarith)
  unfold curve
  gcongr

theorem Sound.curve_zero (hs : s.Sound) (r : ℝ) : s.curve r 0 = s.backoffFraction * r := by
  have hpos := hs.cubic_pos.ne'
  have hcube : s.inflection r ^ 3 = r * (1 - s.backoffFraction) / s.cubicConstant :=
    realCubeRoot_pow _
  have hneg : (0 - s.inflection r) ^ 3 = -(s.inflection r ^ 3) := by ring
  rw [curve, hneg, hcube]
  field_simp
  ring

/-- A cut rate needs no ceiling. -/
theorem Sound.held_share (hs : s.Sound) (hfloor : s.rateFloorKbit ≤ r) (hr : r ≤ s.ceiling d) :
    s.held d (s.backoffFraction * r) = max s.rateFloorKbit (s.backoffFraction * r) := by
  have hshare : s.backoffFraction * r ≤ 1 * r := by
    have hone := hs.one_le_floor
    have hlt := hs.backoff_lt_one
    gcongr
    linarith
  rw [held, min_eq_right (by linarith)]

theorem Sound.ceiling_le_curve_iff (hs : s.Sound) (d : Direction) :
    s.ceiling d ≤ s.curve r t ↔
      s.inflection r + realCubeRoot ((s.ceiling d - r) / s.cubicConstant) ≤ t := by
  have hpos := hs.cubic_pos
  rw [curve, ← sub_le_iff_le_add, ← div_le_iff₀' hpos, ← realCubeRoot_le_iff,
    ← le_sub_iff_add_le']

/-- A rate held to its bounds is at its ceiling if there is no room below or the curve is there. -/
theorem Sound.ceiling_le_held_iff (hs : s.Sound) (d : Direction) :
    s.ceiling d ≤ s.held d (s.curve r t) ↔ s.rateFloorKbit = s.ceiling d ∨
      s.inflection r + realCubeRoot ((s.ceiling d - r) / s.cubicConstant) ≤ t := by
  have hfloor : s.ceiling d ≤ s.rateFloorKbit ↔ s.rateFloorKbit = s.ceiling d :=
    ⟨fun h => le_antisymm (hs.floor_le_ceiling d) h, fun h => h.ge⟩
  rw [held, le_max_iff, hfloor, le_min_iff, ← hs.ceiling_le_curve_iff]
  simp

end RateSettings
end AdaptiveShaper
