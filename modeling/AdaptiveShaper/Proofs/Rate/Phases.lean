import AdaptiveShaper.Proofs.Binary64.Doubling
import AdaptiveShaper.Proofs.Rate.Bounds

/-!
# Phases and what they tell of the past

Every recovery ends what a latency increase began, so that there are at most as many recoveries as
increases, and strictly fewer while the controller does not grow. A controller that has recovered
grows at its ceilings and stays there; this needs that doubling does not make a number smaller,
which the order alone does not give.
-/

namespace AdaptiveShaper

namespace RateCall

/-- When a call hands in a latency increase. -/
def signalledAt? : RateCall → Option Instant
  | .signal now => some now
  | .tick _ _ => none

def isTick : RateCall → Bool
  | .signal _ => false
  | .tick _ _ => true

/-- When latency increases were handed in, in the order of the calls. -/
def signals (calls : List RateCall) : List Instant := calls.filterMap signalledAt?

theorem signals_concat_signal (calls : List RateCall) (now : Instant) :
    signals (calls ++ [.signal now]) = signals calls ++ [now] :=
  List.filterMap_append

theorem signals_concat_tick (calls : List RateCall) (now : Instant) (rttMean : Option Span) :
    signals (calls ++ [.tick now rttMean]) = signals calls := by
  simp [signals, signalledAt?]

theorem signals_eq_nil_of_earlier {earlier calls : List RateCall} (h : earlier <+: calls)
    (hcalls : signals calls = []) : signals earlier = [] :=
  List.prefix_nil.mp (hcalls ▸ h.filterMap signalledAt?)

end RateCall

namespace RateSettings.Valid

variable {s : RateSettings Float}

theorem one_le_floor (hs : s.Valid) : 1.0 ≤ s.rateFloorKbit :=
  of_decide_eq_true hs.one_atMost_floor

theorem floor_le_ceiling (hs : s.Valid) (d : Direction) : s.rateFloorKbit ≤ s.ceiling d :=
  of_decide_eq_true (hs.floor_atMost_ceiling d)

theorem one_le_ceiling (hs : s.Valid) (d : Direction) : 1.0 ≤ s.ceiling d :=
  Binary64.le_trans hs.one_le_floor (hs.floor_le_ceiling d)

end RateSettings.Valid

namespace RateController

open RateCall RateNumber

/-! ## Counters -/

section Counters

variable {R : Type} {c : RateController R} {calls : List RateCall}

/-- What the phase, the counters and the time of a controller say of the calls made to it. -/
structure Recalls (calls : List RateCall) (c : RateController R) : Prop where
  totalTicks_eq : c.totalTicks = calls.countP isTick
  totalBackoffs_eq : c.totalBackoffs = (signals calls).length
  signalledAt_eq : c.signalledAt = (signals calls).getLast?
  backoff_iff : c.phase = .backoff ↔ ∃ now, calls.getLast? = some (.signal now)
  recoveries_le : c.totalRecoveries + (if c.phase = .growing then 0 else 1) ≤ c.totalBackoffs

theorem Recalls.growing_of_signals_eq_nil (h : c.Recalls calls) (hsignals : signals calls = []) :
    c.phase = .growing ∧ c.totalRecoveries = 0 := by
  have hle := h.recoveries_le
  rw [h.totalBackoffs_eq, hsignals, List.length_nil] at hle
  split at hle
  · next hphase => exact ⟨hphase, by omega⟩
  · omega

variable [RateNumber R]

theorem Recalls.start (s : RateSettings R) : (start s).Recalls [] where
  totalTicks_eq := rfl
  totalBackoffs_eq := rfl
  signalledAt_eq := rfl
  backoff_iff := by simp [RateController.start]
  recoveries_le := Nat.le_refl _

theorem Recalls.signal (h : c.Recalls calls) (now : Instant) :
    (c.signal now).1.Recalls (calls ++ [.signal now]) := by
  have hrecoveries := h.recoveries_le
  constructor
  · rw [List.countP_append, ← h.totalTicks_eq]
    rfl
  · rw [signals_concat_signal, List.length_append, ← h.totalBackoffs_eq]
    rfl
  · rw [signals_concat_signal, List.getLast?_concat]
    rfl
  · simp
  · change c.totalRecoveries + 1 ≤ c.totalBackoffs + 1
    omega

theorem Recalls.tick (h : c.Recalls calls) (now : Instant) (rttMean : Option Span) :
    (c.tick now rttMean).1.Recalls (calls ++ [.tick now rttMean]) := by
  have hrecoveries := h.recoveries_le
  constructor
  · rw [totalTicks_tick, List.countP_append, ← h.totalTicks_eq]
    rfl
  · rw [totalBackoffs_tick, signals_concat_tick]
    exact h.totalBackoffs_eq
  · rw [signalledAt_tick, signals_concat_tick]
    exact h.signalledAt_eq
  · simp [phase_tick_ne_backoff]
  · rw [totalBackoffs_tick]
    cases phaseStep_tick c now rttMean with
    | grow h₁ h₂ h₃ h₄ => simpa [h₂, h₄, h₁] using hrecoveries
    | settle h₁ h₂ h₃ => simpa [h₂, h₃, h₁] using hrecoveries
    | climb h₁ h₂ h₃ => simpa [h₂, h₃, h₁] using hrecoveries
    | arrive h₁ h₂ h₃ h₄ => simpa [h₂, h₄, h₁] using hrecoveries

theorem Recalls.answer (h : c.Recalls calls) (call : RateCall) :
    (c.answer call).1.Recalls (calls ++ [call]) := by
  cases call with
  | signal now => exact h.signal now
  | tick now rttMean => exact h.tick now rttMean

theorem recalls_run (s : RateSettings R) (calls : List RateCall) :
    ((RateController.start s).run calls).Recalls calls := by
  induction calls using List.reverseRecOn with
  | nil => exact Recalls.start s
  | append_singleton calls call ih =>
    rw [run_concat]
    exact ih.answer call

end Counters

/-! ## Ceilings -/

theorem clamp_of_ceiling_le {lo hi x : Float} (hone : 1.0 ≤ hi) (hle : lo ≤ hi) (hx : hi ≤ x) :
    clamp lo hi x = hi := by
  have hlx : atMost lo x = true := decide_eq_true (Binary64.le_trans hle hx)
  obtain ⟨hlo, hnan⟩ := OrderedRates.isNaN_of_atMost lo x hlx
  obtain ⟨hhi, _⟩ := OrderedRates.isNaN_of_atMost hi x (decide_eq_true hx)
  unfold clamp
  rw [hnan, OrderedRates.below_eq x lo hnan hlo, OrderedRates.below_eq hi x hhi hnan, hlx]
  cases hge : atMost x hi with
  | false => rfl
  | true => exact (Binary64.eq_of_le_of_le hone hx (of_decide_eq_true hge)).symm

variable {s : RateSettings Float} {c : RateController Float} {calls : List RateCall}

theorem double_of_ceiling (h : c.WithinBounds s) (hs : s.Valid) {d : Direction}
    (hceiling : (c.rates.get d).current = s.ceiling d) :
    (c.rates.get d).double.current = s.ceiling d := by
  have hbounds := h.rates d
  change clamp (c.rates.get d).floor (c.rates.get d).ceiling ((c.rates.get d).current * 2.0) = _
  rw [hbounds.floor_eq, hbounds.ceiling_eq, hceiling]
  have hone := hs.one_le_ceiling d
  exact clamp_of_ceiling_le hone (hs.floor_le_ceiling d) (Binary64.le_double hone)

theorem current_of_atCeiling (h : c.WithinBounds s) (hs : s.Valid) {d : Direction}
    (hceiling : (c.rates.get d).atCeiling = true) : (c.rates.get d).current = s.ceiling d := by
  obtain ⟨_, hbound, ⟨_, hle⟩, _⟩ := h.rates d
  rw [DirectionRate.atCeiling, hbound] at hceiling
  exact (Binary64.eq_of_le_of_le (hs.one_le_ceiling d) (of_decide_eq_true hceiling)
    (of_decide_eq_true hle)).symm

/-- A controller within its bounds that is at its ceilings while it grows again. -/
structure Regrown (s : RateSettings Float) (c : RateController Float) : Prop where
  withinBounds : c.WithinBounds s
  ceiling : c.phase = .growing → 0 < c.totalBackoffs →
    ∀ d, (c.rates.get d).current = s.ceiling d

theorem Regrown.start (hs : s.Valid) : (RateController.start s).Regrown s where
  withinBounds := .start hs
  ceiling _ h := absurd h (Nat.lt_irrefl 0)

theorem Regrown.answer (h : c.Regrown s) (hs : s.Valid) (call : RateCall) :
    (c.answer call).1.Regrown s := by
  have hnext := h.withinBounds.answer hs call
  refine ⟨hnext, ?_⟩
  cases call with
  | signal now =>
    intro hphase
    cases hphase
  | tick now rttMean =>
    change (c.tick now rttMean).1.phase = .growing → 0 < (c.tick now rttMean).1.totalBackoffs →
      ∀ d, ((c.tick now rttMean).1.rates.get d).current = s.ceiling d
    change (c.tick now rttMean).1.WithinBounds s at hnext
    intro hphase hbackoffs d
    rw [totalBackoffs_tick] at hbackoffs
    cases phaseStep_tick c now rttMean with
    | grow h₁ h₂ h₃ h₄ =>
      rw [h₃, Both.get_map]
      exact double_of_ceiling h.withinBounds hs (h.ceiling h₁ hbackoffs d)
    | settle h₁ h₂ h₃ =>
      rw [h₂] at hphase
      cases hphase
    | climb h₁ h₂ h₃ =>
      rw [h₂] at hphase
      cases hphase
    | arrive h₁ h₂ h₃ h₄ => exact current_of_atCeiling hnext hs ((Both.all_iff _ _).mp h₃ d)

theorem Regrown.run (h : c.Regrown s) (hs : s.Valid) (calls : List RateCall) :
    (c.run calls).Regrown s := by
  induction calls generalizing c with
  | nil => exact h
  | cons call calls ih => exact ih (h.answer hs call)

/-! ## Views after any calls -/

/-- What a view at `now` shows after some calls to a controller with the settings `s`. -/
structure Shows (s : RateSettings Float) (calls : List RateCall) (now : Instant)
    (v : RateStats Float) : Prop where
  totalBackoffs_eq : v.totalBackoffs = (signals calls).length
  totalTicks_eq : v.totalTicks = calls.countP isTick
  backoff_iff : v.phase = .backoff ↔ ∃ t, calls.getLast? = some (.signal t)
  sinceLastBackoff_eq : v.sinceLastBackoffSecs =
    (signals calls).getLast?.map fun t => ofSeconds (now.since t)
  isSome_sinceLastBackoff : v.sinceLastBackoffSecs.isSome = true ↔ 0 < v.totalBackoffs
  recoveries_le : v.totalRecoveries + (if v.phase = .growing then 0 else 1) ≤ v.totalBackoffs
  rate_eq_ceiling : v.phase = .growing → signals calls ≠ [] → ∀ d, v.rate.get d = s.ceiling d

theorem Regrown.shows (h : c.Regrown s) (hcalls : c.Recalls calls) (now : Instant) :
    Shows s calls now (c.stats now) where
  totalBackoffs_eq := hcalls.totalBackoffs_eq
  totalTicks_eq := hcalls.totalTicks_eq
  backoff_iff := hcalls.backoff_iff
  sinceLastBackoff_eq := by
    rw [← hcalls.signalledAt_eq]
    rfl
  isSome_sinceLastBackoff := by
    change (c.signalledAt.map _).isSome = true ↔ 0 < c.totalBackoffs
    rw [Option.isSome_map, hcalls.signalledAt_eq, hcalls.totalBackoffs_eq, List.getLast?_isSome,
      List.length_pos_iff]
  recoveries_le := hcalls.recoveries_le
  rate_eq_ceiling := by
    intro hphase hsignals d
    have hbackoffs : 0 < c.totalBackoffs := by
      rw [hcalls.totalBackoffs_eq]
      exact List.length_pos_iff.mpr hsignals
    change (c.rates.map DirectionRate.current).get d = _
    rw [Both.get_map]
    exact h.ceiling hphase hbackoffs d

/-- Accepted settings give a controller, and after any calls at any clock readings its view counts
the calls, gives the time since the latest latency increase, is in backoff just after one, and has
not more recoveries than increases, nor as many unless it grows. If it grows after an increase, both
rates are at their ceilings; if there was no increase, it has been growing all the time. -/
theorem shows_run_start (s : RateSettings Float) (h : s.validate = .ok ())
    (calls : List RateCall) :
    new s = .ok (RateController.start s) ∧
      (∀ now, Shows s calls now (((RateController.start s).run calls).stats now)) ∧
      (signals calls = [] → ∀ earlier, earlier <+: calls →
        ((RateController.start s).run earlier).phase = .growing ∧
          ((RateController.start s).run earlier).totalRecoveries = 0) := by
  have hs := s.validate_eq_ok_iff.mp h
  refine ⟨?_, fun now => ?_, fun hsignals earlier hearlier => ?_⟩
  · rw [new, h]
    rfl
  · exact ((Regrown.start hs).run hs calls).shows (recalls_run s calls) now
  · exact (recalls_run s earlier).growing_of_signals_eq_nil
      (signals_eq_nil_of_earlier hearlier hsignals)

/-- A run with two increases that has recovered in the end. -/
theorem shows_run_start_standard :
    RateSettings.standard.validate = .ok () ∧
      (∀ now, Shows .standard
        [.signal ⟨5⟩, .tick ⟨9⟩ none, .signal ⟨7⟩, .tick ⟨8⟩ none, .tick ⟨1000000000000⟩ none] now
        (((RateController.start .standard).run [.signal ⟨5⟩, .tick ⟨9⟩ none, .signal ⟨7⟩,
          .tick ⟨8⟩ none, .tick ⟨1000000000000⟩ none]).stats now)) ∧
      ((RateController.start .standard).run [.signal ⟨5⟩, .tick ⟨9⟩ none, .signal ⟨7⟩,
        .tick ⟨8⟩ none, .tick ⟨1000000000000⟩ none]).phase = .growing := by
  have h : RateSettings.standard.validate = .ok () := rfl
  exact ⟨h, (shows_run_start .standard h _).2.1, by decide +kernel⟩

end RateController
end AdaptiveShaper
