import AdaptiveShaper.Proofs.Binary64.Scaling
import AdaptiveShaper.Proofs.Rate.Steps
import AdaptiveShaper.Proofs.Rate.Unlimited

/-!
# Growing undisturbed

As long as latency does not increase, a rate is the floor doubled once for each tick, held to the
ceiling. Doubling makes no rounding error, so that the rate is known exactly, as a real number.
-/

namespace AdaptiveShaper

open Binary64 RateNumber

theorem Binary64.toReal_clamp_double {lo hi x : Float} (hone : 1.0 ≤ lo) (hlo : lo ≤ x)
    (hhi : x ≤ hi) (hfinite : hi.isFinite = true) :
    toReal (clamp lo hi (x * 2.0)) = min (2 * toReal x) (toReal hi) := by
  have hx : 1.0 ≤ x := Binary64.le_trans hone hlo
  have hdouble : x ≤ x * 2.0 := le_double hx
  have hnan : (x * 2.0).isNaN = false :=
    (OrderedRates.isNaN_of_atMost x _ (decide_eq_true hdouble)).2
  rcases Binary64.le_total hnan (not_isNaN_of_isFinite hfinite) with hle | hge
  · have hproper := finiteNonzero_of_le (Binary64.le_trans hx hdouble) hle hfinite
    rw [clamp_eq_self (decide_eq_true (Binary64.le_trans hlo hdouble)) (decide_eq_true hle),
      ← toReal_double hx hproper.isFinite]
    exact (min_eq_left ((le_iff_toReal hproper.isFinite hfinite).mp hle)).symm
  · have hxfinite : x.isFinite = true := (finiteNonzero_of_le hx hhi hfinite).isFinite
    rw [RateController.clamp_of_ceiling_le (Binary64.le_trans hx hhi) (Binary64.le_trans hlo hhi)
      hge]
    exact (min_eq_right (toReal_le_double hx hxfinite hfinite hge)).symm

/-! ## The ramp -/

namespace RateSettings

variable {s : RateSettings Float} {d : Direction}

/-- The rate of a direction after `n` ticks without a latency increase. -/
noncomputable def ramp (s : RateSettings Float) (n : Nat) (d : Direction) : ℝ :=
  min (toReal s.rateFloorKbit * (2 ^ n : Nat)) (toReal (s.ceiling d))

/-- Valid settings with a ceiling that is finite in each direction. -/
structure Limited (s : RateSettings Float) : Prop extends Valid s where
  isFinite_ceiling : ∀ d, (s.ceiling d).isFinite = true

theorem Limited.of_maxRate (hs : s.Valid) (hmax : ∀ d, (s.maxRate d).isFinite = true) :
    s.Limited :=
  { hs with isFinite_ceiling := fun d => (s.isFinite_ceiling d).trans (hmax d) }

theorem Limited.isFinite_floor (hs : s.Limited) : s.rateFloorKbit.isFinite = true :=
  (finiteNonzero_of_le hs.one_le_floor (hs.floor_le_ceiling .uplink)
    (hs.isFinite_ceiling .uplink)).isFinite

theorem Limited.one_le_floor_toReal (hs : s.Limited) : 1 ≤ toReal s.rateFloorKbit :=
  one_le_toReal hs.one_le_floor hs.isFinite_floor

theorem Limited.floor_le_ceiling_toReal (hs : s.Limited) (d : Direction) :
    toReal s.rateFloorKbit ≤ toReal (s.ceiling d) :=
  (le_iff_toReal hs.isFinite_floor (hs.isFinite_ceiling d)).mp (hs.floor_le_ceiling d)

theorem Limited.ramp_zero (hs : s.Limited) (d : Direction) :
    s.ramp 0 d = toReal s.rateFloorKbit := by
  rw [ramp, pow_zero, Nat.cast_one, mul_one]
  exact min_eq_left (hs.floor_le_ceiling_toReal d)

/-- Holding every double to the ceiling comes to the same as holding the last one. -/
theorem Limited.ramp_succ (hs : s.Limited) (n : Nat) (d : Direction) :
    s.ramp (n + 1) d = min (2 * s.ramp n d) (toReal (s.ceiling d)) := by
  have hone := hs.one_le_floor_toReal
  have hceiling := hs.floor_le_ceiling_toReal d
  have hdouble : toReal (s.ceiling d) ≤ 2 * toReal (s.ceiling d) := by linarith
  simp only [ramp, Nat.cast_pow, Nat.cast_ofNat]
  calc min (toReal s.rateFloorKbit * 2 ^ (n + 1)) (toReal (s.ceiling d))
      = min (2 * (toReal s.rateFloorKbit * 2 ^ n)) (toReal (s.ceiling d)) := by
        rw [pow_succ, ← mul_assoc, mul_comm 2]
    _ = min (2 * (toReal s.rateFloorKbit * 2 ^ n))
          (min (2 * toReal (s.ceiling d)) (toReal (s.ceiling d))) := by
        rw [min_eq_right hdouble]
    _ = min (2 * min (toReal s.rateFloorKbit * 2 ^ n) (toReal (s.ceiling d)))
          (toReal (s.ceiling d)) := by
        rw [← min_assoc, mul_min_of_nonneg _ _ zero_le_two]

theorem Limited.ramp_mono (hs : s.Limited) {m n : Nat} (h : m ≤ n) (d : Direction) :
    s.ramp m d ≤ s.ramp n d := by
  have hone := hs.one_le_floor_toReal
  unfold ramp
  gcongr
  exact one_le_two

end RateSettings

namespace RateController

variable {s : RateSettings Float} {n : Nat} {c : RateController Float}

/-- A controller that has done nothing but grow for `n` ticks. -/
structure Ramped (s : RateSettings Float) (n : Nat) (c : RateController Float) : Prop where
  withinBounds : c.WithinBounds s
  phase_eq : c.phase = .growing
  totalBackoffs_eq : c.totalBackoffs = 0
  totalRecoveries_eq : c.totalRecoveries = 0
  toReal_rate : ∀ d, toReal (c.rate.get d) = s.ramp n d
  splitGso_eq : c.splitGso = splits s c.rates

theorem Ramped.start (hs : s.Limited) : (start s).Ramped s 0 where
  withinBounds := .start hs.toValid
  phase_eq := rfl
  totalBackoffs_eq := rfl
  totalRecoveries_eq := rfl
  toReal_rate d := by
    rw [hs.ramp_zero]
    cases d <;> rfl
  splitGso_eq := rfl

theorem Ramped.tick (h : c.Ramped s n) (hs : s.Limited) (now : Instant)
    (rttMean : Option Span) : (c.tick now rttMean).1.Ramped s (n + 1) := by
  have hgrown := h.withinBounds.grown h.phase_eq now rttMean
  have hbounds : (c.tick now rttMean).1.WithinBounds s :=
    h.withinBounds.answer hs.toValid (.tick now rttMean)
  refine ⟨hbounds, hgrown.phase_eq, ?_, ?_, fun d => ?_, ?_⟩
  · rw [totalBackoffs_tick, h.totalBackoffs_eq]
  · rw [hgrown.totalRecoveries_eq, h.totalRecoveries_eq]
  · obtain ⟨hlo, hhi⟩ := h.withinBounds.bounded.rate d
    rw [hgrown.rate_eq, toReal_clamp_double hs.one_le_floor hlo hhi (hs.isFinite_ceiling d),
      h.toReal_rate, hs.ramp_succ]
  · rw [tick_of_growing h.phase_eq, ← h.withinBounds.settings_eq]
    rfl

theorem Ramped.isFinite_rate (h : c.Ramped s n) (hs : s.Limited) (d : Direction) :
    (c.rate.get d).isFinite = true := by
  obtain ⟨hlo, hhi⟩ := h.withinBounds.bounded.rate d
  exact (finiteNonzero_of_le (Binary64.le_trans hs.one_le_floor hlo) hhi
    (hs.isFinite_ceiling d)).isFinite

/-- Large packets are split as long as the slower direction is below the threshold. -/
theorem Ramped.splitGso_iff (h : c.Ramped s n) (hs : s.Limited) :
    c.splitGso = true ↔
      min (s.ramp n .uplink) (s.ramp n .downlink) < toReal s.splitGsoThresholdKbit := by
  have hbelow : ∀ d, below (c.rates.get d).current s.splitGsoThresholdKbit = true ↔
      s.ramp n d < toReal s.splitGsoThresholdKbit := by
    intro d
    rw [← h.toReal_rate, ← get_rate, ← lt_iff_toReal (h.isFinite_rate hs d) hs.split_finite]
    exact decide_eq_true_iff
  rw [h.splitGso_eq, min_lt_iff, ← hbelow, ← hbelow, ← Bool.or_eq_true]
  rfl

theorem Ramped.rate_le {m : Nat} {next : RateController Float} (h : c.Ramped s m)
    (hnext : next.Ramped s n) (hs : s.Limited) (hmn : m ≤ n) (d : Direction) :
    c.rate.get d ≤ next.rate.get d := by
  rw [le_iff_toReal (h.isFinite_rate hs d) (hnext.isFinite_rate hs d), h.toReal_rate,
    hnext.toReal_rate]
  exact hs.ramp_mono hmn d

/-- Once packets are not split any more, they are not split later. -/
theorem Ramped.splitGso_le {m : Nat} {next : RateController Float} (h : c.Ramped s m)
    (hnext : next.Ramped s n) (hs : s.Limited) (hmn : m ≤ n) (hsplit : c.splitGso = false) :
    next.splitGso = false := by
  rw [Bool.eq_false_iff, ne_eq, h.splitGso_iff hs, not_lt] at hsplit
  rw [Bool.eq_false_iff, ne_eq, hnext.splitGso_iff hs, not_lt]
  exact hsplit.trans (min_le_min (hs.ramp_mono hmn _) (hs.ramp_mono hmn _))

end RateController
end AdaptiveShaper
