import AdaptiveShaper.Settings.Basic

/-!
# What accepted settings fulfil

`validate` stops at the first fault; here its checks stand side by side. The settings of the rate
controller and those of the whole program are accepted exactly if every single check passes.
-/

namespace AdaptiveShaper

theorem bind_eq_ok_iff {ε β : Type} {x : Except ε Unit} {f : Unit → Except ε β} {b : β} :
    (x >>= f) = .ok b ↔ x = .ok () ∧ f () = .ok b := by
  cases x <;> simp [bind, Except.bind]

namespace RateSettings

variable {R : Type} [RateNumber R]

open RateNumber

/-- The checks on the settings of the rate controller. -/
structure Valid (s : RateSettings R) : Prop where
  floorFits : ∀ d, s.floorFits d = true
  minRtt_pos : s.minRtt.isZero = false
  minRtt_le : s.minRtt ≤ s.maxRtt
  backoff_pos : below 0.0 s.backoffFraction = true
  backoff_lt_one : below s.backoffFraction 1.0 = true
  cubic_pos : below 0.0 s.cubicConstant = true
  cubic_finite : isFinite s.cubicConstant = true
  split_nonneg : atMost 0.0 s.splitGsoThresholdKbit = true
  split_finite : isFinite s.splitGsoThresholdKbit = true

theorem checkFloor_eq_ok_iff (s : RateSettings R) (d : Direction) :
    s.checkFloor d = .ok () ↔ s.floorFits d = true := by
  unfold checkFloor
  split <;> simp_all

theorem validate_eq_ok_iff (s : RateSettings R) : s.validate = .ok () ↔ s.Valid := by
  have hrtt : (s.minRtt.isZero || decide (s.maxRtt < s.minRtt)) = false ↔
      s.minRtt.isZero = false ∧ s.minRtt ≤ s.maxRtt := by
    rw [Bool.or_eq_false_iff, decide_eq_false_iff_not, Span.le_iff, Span.lt_iff, Nat.not_lt]
  unfold validate
  simp only [bind_eq_ok_iff, checkFloor_eq_ok_iff]
  constructor
  · rintro ⟨hup, hdown, h⟩
    -- each later check is reached only if the one before it passes
    split at h
    · cases h
    · next h₁ =>
      split at h
      · cases h
      · next h₂ =>
        split at h
        · cases h
        · next h₃ =>
          split at h
          · cases h
          · next h₄ =>
            rw [Bool.not_eq_true, hrtt] at h₁
            simp only [Bool.not_eq_true', Bool.not_eq_false, Bool.and_eq_true] at h₂ h₃ h₄
            exact ⟨fun d => by cases d <;> assumption, h₁.1, h₁.2, h₂.1, h₂.2, h₃.1, h₃.2, h₄.1,
              h₄.2⟩
  · intro h
    refine ⟨h.floorFits .uplink, h.floorFits .downlink, ?_⟩
    rw [hrtt.mpr ⟨h.minRtt_pos, h.minRtt_le⟩]
    simp [h.backoff_pos, h.backoff_lt_one, h.cubic_pos, h.cubic_finite, h.split_nonneg,
      h.split_finite, pure, Except.pure]

theorem Valid.one_atMost_floor {s : RateSettings R} (h : s.Valid) :
    atMost 1.0 s.rateFloorKbit = true := by
  have hfits := h.floorFits .uplink
  rw [RateSettings.floorFits, Bool.and_eq_true] at hfits
  exact hfits.1

theorem Valid.floor_atMost_ceiling {s : RateSettings R} (h : s.Valid) (d : Direction) :
    atMost s.rateFloorKbit (s.ceiling d) = true := by
  have hd := h.floorFits d
  rw [RateSettings.floorFits, Bool.and_eq_true] at hd
  exact hd.2

end RateSettings

namespace Settings

/-- The checks on the settings of the program. -/
structure Valid (s : Settings) : Prop where
  interfaces : ∀ d, (Text.trim (s.interfaces.get d).toList).isEmpty = false
  rate : s.rate.Valid
  windowCapacity_pos : 0 < s.windowCapacity
  tickInterval_pos : s.tickInterval.isZero = false
  failureThreshold_pos : 0 < s.failureThreshold
  applyTimeout_pos : s.applyTimeout.isZero = false
  ingestQueueCapacity_pos : 0 < s.ingestQueueCapacity

theorem checkInterface_eq_ok_iff (s : Settings) (d : Direction) :
    s.checkInterface d = .ok () ↔ (Text.trim (s.interfaces.get d).toList).isEmpty = false := by
  unfold checkInterface
  split <;> simp_all

theorem checkPositive_eq_ok_iff (p : PositiveSetting) (isZero : Bool) :
    checkPositive p isZero = .ok () ↔ isZero = false := by
  cases isZero <;> simp [checkPositive]

theorem mapError_eq_ok_iff {ε δ α : Type} {f : ε → δ} {x : Except ε α} {a : α} :
    x.mapError f = .ok a ↔ x = .ok a := by
  constructor
  · intro h
    cases x with
    | error e => cases h
    | ok b =>
      cases h
      rfl
  · rintro rfl
    rfl

theorem validate_eq_ok_iff (s : Settings) : s.validate = .ok () ↔ s.Valid := by
  unfold validate
  simp only [bind_eq_ok_iff, checkInterface_eq_ok_iff, checkPositive_eq_ok_iff,
    mapError_eq_ok_iff, RateSettings.validate_eq_ok_iff, beq_eq_false_iff_ne]
  constructor
  · rintro ⟨hup, hdown, hrate, hwindow, htick, hfail, happly, hqueue⟩
    exact ⟨fun d => by cases d <;> assumption, hrate, by omega, htick, by omega, happly, by omega⟩
  · intro h
    have hwindow := h.windowCapacity_pos
    have hfail := h.failureThreshold_pos
    have hqueue := h.ingestQueueCapacity_pos
    exact ⟨h.interfaces .uplink, h.interfaces .downlink, h.rate, by omega, h.tickInterval_pos,
      by omega, h.applyTimeout_pos, by omega⟩

end Settings
end AdaptiveShaper
