import AdaptiveShaper.Proofs.Binary64.Kinds
import AdaptiveShaper.Proofs.Rate.Phases

/-!
# Growing without a ceiling

If a ceiling is infinite, a rate is infinite after 2046 doublings. A latency increase makes it the
reference, and infinity less infinity is no number.
-/

namespace AdaptiveShaper

open Binary64 RateNumber

namespace Binary64

open Float.Model (UnpackedFloat Format)
open Float.Model.UnpackedFloat

variable {x y : Float} {E : Int}

/-- Whether `x` is infinite, or normal with an exponent that is at least `E`. -/
def Reaches (E : Int) (x : Float) : Prop :=
  x.toModel.unpack = .infinity .positive ∨
    ∃ m e hm, x.toModel.unpack = .finite .positive m e hm ∧ 0x10_0000_0000_0000 ≤ m ∧ E ≤ e

theorem reaches_of_one_le (h : 1.0 ≤ x) : Reaches (-1074) x := by
  obtain hx | ⟨m, e, hm, hx, hlo⟩ := unpack_of_one_le h
  · exact .inl hx
  · exact .inr ⟨m, e, hm, hx, hlo, (isCanonical_unpack x _ m e hm hx).le_exponent⟩

theorem Reaches.double (h : Reaches E x) : Reaches (E + 1) (x * 2.0) := by
  obtain hx | ⟨m, e, hm, hx, hlo, he⟩ := h
  · exact .inl (unpack_double_infinity hx)
  · have hdouble := unpack_double_normal hx hlo
    by_cases hlast : e < 971
    · rw [if_pos hlast] at hdouble
      exact .inr ⟨m, e + 1, hm, hdouble, hlo, by omega⟩
    · rw [if_neg hlast] at hdouble
      exact .inl hdouble

theorem Reaches.eq_infinity (h : Reaches E x) (hE : 971 < E) :
    x.toModel.unpack = .infinity .positive := by
  obtain hx | ⟨m, e, hm, hx, _, he⟩ := h
  · exact hx
  · have hle := (isCanonical_unpack x _ m e hm hx).exponent_le
    omega

theorem isFinite_of_eq_infinity (h : x.toModel.unpack = .infinity .positive) :
    x.isFinite = false := by
  change x.toModel.unpack.isFinite = false
  rw [h]
  rfl

theorem le_infinity (h : 1.0 ≤ x) (hy : y.toModel.unpack = .infinity .positive) : x ≤ y := by
  obtain hx | ⟨m, e, hm, hx, _⟩ := unpack_of_one_le h
  · refine le_iff.mpr ⟨.eq, ?_, rfl⟩
    rw [compare?, hx, hy]
    rfl
  · refine le_iff.mpr ⟨.lt, ?_, rfl⟩
    rw [compare?, hx, hy]
    rfl

end Binary64

namespace RateSettings

variable {s : RateSettings Float}

theorem isFinite_ceiling (s : RateSettings Float) (d : Direction) :
    (s.ceiling d).isFinite = (s.maxRate d).isFinite :=
  isFinite_mul_nineTenths _

theorem Valid.ceiling_eq_infinity (hs : s.Valid) {d : Direction}
    (hmax : (s.maxRate d).isFinite = false) :
    (s.ceiling d).toModel.unpack = .infinity .positive := by
  rw [← s.isFinite_ceiling d] at hmax
  obtain hinfinity | ⟨m, e, hm, hfinite, _⟩ := unpack_of_one_le (hs.one_le_ceiling d)
  · exact hinfinity
  · change (s.ceiling d).toModel.unpack.isFinite = false at hmax
    rw [hfinite] at hmax
    cases hmax

end RateSettings

namespace RateController

variable {s : RateSettings Float} {d : Direction} {n : Nat} {c : RateController Float}

/-- A controller that has been growing for `n` ticks with nothing to hold back the direction `d`. -/
structure Climbs (s : RateSettings Float) (d : Direction) (n : Nat) (c : RateController Float) :
    Prop where
  withinBounds : c.WithinBounds s
  growing : c.phase = .growing
  reaches : Reaches (n - 1074) (c.rate.get d)

theorem Climbs.start (hs : s.Valid) (d : Direction) : (RateController.start s).Climbs s d 0 where
  withinBounds := .start hs
  growing := rfl
  reaches := by
    have hrate : (RateController.start s).rate.get d = s.rateFloorKbit := by cases d <;> rfl
    rw [hrate]
    exact reaches_of_one_le hs.one_le_floor

/-- Twice a rate is no less than the floor and no more than an infinite ceiling. -/
theorem double_of_infinite_ceiling (h : c.WithinBounds s) (hs : s.Valid)
    (hceiling : (s.ceiling d).toModel.unpack = .infinity .positive) :
    (c.rates.get d).double.current = (c.rates.get d).current * 2.0 := by
  obtain ⟨hfloor, hbound, ⟨hlo, _⟩, _⟩ := h.rates d
  have hone : 1.0 ≤ (c.rates.get d).current :=
    Binary64.le_trans hs.one_le_floor (of_decide_eq_true hlo)
  have hdouble := le_double hone
  change clamp (c.rates.get d).floor (c.rates.get d).ceiling ((c.rates.get d).current * 2.0) = _
  rw [hfloor, hbound]
  refine clamp_eq_self ?_ ?_
  · exact decide_eq_true (Binary64.le_trans (of_decide_eq_true hlo) hdouble)
  · exact decide_eq_true (le_infinity (Binary64.le_trans hone hdouble) hceiling)

theorem Climbs.tick (h : c.Climbs s d n) (hs : s.Valid)
    (hceiling : (s.ceiling d).toModel.unpack = .infinity .positive) (now : Instant)
    (rttMean : Option Span) : (c.tick now rttMean).1.Climbs s d (n + 1) := by
  have hbounds := h.withinBounds.answer hs (.tick now rttMean)
  cases phaseStep_tick c now rttMean with
  | grow h₁ h₂ h₃ h₄ =>
    refine ⟨hbounds, h₂, ?_⟩
    have hrate : (c.tick now rttMean).1.rate.get d = c.rate.get d * 2.0 := by
      rw [rate, h₃, Both.get_map, Both.get_map, rate, Both.get_map]
      exact double_of_infinite_ceiling h.withinBounds hs hceiling
    have hexponent : ((n + 1 : Nat) : Int) - 1074 = n - 1074 + 1 := by omega
    rw [hrate, hexponent]
    exact h.reaches.double
  | settle h₁ h₂ h₃ => simp [h.growing] at h₁
  | climb h₁ h₂ h₃ => simp [h.growing] at h₁
  | arrive h₁ h₂ h₃ h₄ => simp [h.growing] at h₁

theorem Climbs.run (h : c.Climbs s d n) (hs : s.Valid)
    (hceiling : (s.ceiling d).toModel.unpack = .infinity .positive) {calls : List RateCall}
    (hcalls : ∀ call ∈ calls, call.isTick = true) :
    (c.run calls).Climbs s d (n + calls.length) := by
  induction calls generalizing c n with
  | nil => exact h
  | cons call calls ih =>
    have hrest := fun other hother => hcalls other (List.mem_cons_of_mem call hother)
    have hfirst := hcalls call List.mem_cons_self
    rw [List.length_cons, Nat.add_comm calls.length 1, ← Nat.add_assoc]
    cases call with
    | signal now => cases hfirst
    | tick now rttMean => exact ih (h.tick hs hceiling now rttMean) hrest

/-- Each of the 2046 exponents takes one doubling at most. -/
theorem Climbs.rate_eq_infinity (h : c.Climbs s d n) (hn : 2046 ≤ n) :
    (c.rate.get d).toModel.unpack = .infinity .positive :=
  h.reaches.eq_infinity (by omega)

/-- After a latency increase at an infinite rate no point of the curve is a number. -/
theorem isNaN_rate_signal (hs : s.Valid)
    (hrate : (c.rate.get d).toModel.unpack = .infinity .positive) (now : Instant)
    (elapsed : Span) : (Recovery.rate ((c.signal now).1.reference.get d)
      (RateNumber.ofSeconds elapsed) s.backoffFraction s.cubicConstant).isNaN = true := by
  rw [reference_signal]
  exact isNaN_recoveryRate_of_infinity hrate (isFinite_ofSeconds elapsed)
    (of_decide_eq_true hs.backoff_pos) (of_decide_eq_true hs.backoff_lt_one)
    (finitePositive_of_pos (of_decide_eq_true hs.cubic_pos) hs.cubic_finite)

theorem infinite_run_start (hs : s.Valid) (hmax : (s.maxRate d).isFinite = false)
    {calls : List RateCall} (hcalls : ∀ call ∈ calls, call.isTick = true)
    (hlength : 2046 ≤ calls.length) :
    (((RateController.start s).run calls).rate.get d).isFinite = false ∧
      ∀ (now : Instant) (elapsed : Span), (Recovery.rate
        (((RateController.start s).run (calls ++ [.signal now])).reference.get d)
        (RateNumber.ofSeconds elapsed) s.backoffFraction s.cubicConstant).isNaN = true := by
  have hclimbs := (Climbs.start hs d).run hs (hs.ceiling_eq_infinity hmax) hcalls
  have hrate := hclimbs.rate_eq_infinity (by omega)
  refine ⟨isFinite_of_eq_infinity hrate, fun now elapsed => ?_⟩
  rw [run_concat]
  exact isNaN_rate_signal hs hrate now elapsed

end RateController
end AdaptiveShaper
