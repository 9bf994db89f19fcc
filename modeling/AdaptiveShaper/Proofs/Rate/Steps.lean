import AdaptiveShaper.Proofs.Rate.Bounds
import Mathlib.Data.List.Induction
import Mathlib.Logic.Function.Iterate

/-!
# What each phase makes of a tick

The equations here give the whole controller after a tick, so that everything else about ticks can
be read off them. After latency increases that come one after the other the references lag behind
the rates by one cut.
-/

namespace AdaptiveShaper

open RateNumber

namespace RateController

variable {R : Type} [RateNumber R]

@[simp] theorem rates_retarget (c : RateController R) (rttMean : Option Span) :
    (c.retarget rttMean).rates = c.rates := rfl

/-! ## Ticks -/

variable {c : RateController R}

theorem tick_of_growing (h : c.phase = .growing) (now : Instant) (rttMean : Option Span) :
    (c.tick now rttMean).1 =
      { c with
        totalTicks := c.totalTicks + 1
        rates := c.rates.map DirectionRate.double }.retarget rttMean := by
  simp only [tick, step, h]

theorem tick_of_backoff (h : c.phase = .backoff) (now : Instant) (rttMean : Option Span) :
    (c.tick now rttMean).1 =
      { c with totalTicks := c.totalTicks + 1, phase := .recovering }.retarget rttMean := by
  simp only [tick, step, h]

/-- The rates on their curves at `now`. -/
def recovered (c : RateController R) (now : Instant) : Both (DirectionRate R) :=
  c.rates.map (DirectionRate.recover ((c.elapsedSecs now).getD 0.0) c.settings.backoffFraction
    c.settings.cubicConstant)

theorem fst_recover (c : RateController R) (now : Instant) :
    (c.recover now).1 =
      if (c.recovered now).all DirectionRate.atCeiling then
        { c with
          rates := c.recovered now
          phase := .growing
          totalRecoveries := c.totalRecoveries + 1 }
      else { c with rates := c.recovered now } :=
  apply_ite Prod.fst _ _ _

theorem tick_of_arrival (h : c.phase = .recovering) {now : Instant}
    (hceiling : (c.recovered now).all DirectionRate.atCeiling = true) (rttMean : Option Span) :
    (c.tick now rttMean).1 =
      { c with
        totalTicks := c.totalTicks + 1
        rates := c.recovered now
        phase := .growing
        totalRecoveries := c.totalRecoveries + 1 }.retarget rttMean := by
  simp only [tick, step, h]
  exact congrArg (retarget · rttMean) ((fst_recover _ now).trans (if_pos hceiling))

theorem tick_of_climb (h : c.phase = .recovering) {now : Instant}
    (hceiling : (c.recovered now).all DirectionRate.atCeiling = false) (rttMean : Option Span) :
    (c.tick now rttMean).1 =
      { c with
        totalTicks := c.totalTicks + 1
        rates := c.recovered now }.retarget rttMean := by
  have hbelow : ¬ (c.recovered now).all DirectionRate.atCeiling = true := by simp [hceiling]
  simp only [tick, step, h]
  exact congrArg (retarget · rttMean) ((fst_recover _ now).trans (if_neg hbelow))

/-- Arrived or not, recovering moves the rates along their curves. -/
theorem rates_tick_of_recovering (h : c.phase = .recovering) (now : Instant)
    (rttMean : Option Span) : (c.tick now rttMean).1.rates = c.recovered now := by
  cases hceiling : (c.recovered now).all DirectionRate.atCeiling with
  | true => rw [tick_of_arrival h hceiling, rates_retarget]
  | false => rw [tick_of_climb h hceiling, rates_retarget]

theorem reference_tick (c : RateController R) (now : Instant) (rttMean : Option Span)
    (d : Direction) : (c.tick now rttMean).1.reference.get d = c.reference.get d := by
  rw [reference, reference, Both.get_map, Both.get_map]
  cases h : c.phase with
  | growing =>
    rw [tick_of_growing h, rates_retarget, Both.get_map]
    rfl
  | backoff =>
    rw [tick_of_backoff h]
    rfl
  | recovering =>
    rw [rates_tick_of_recovering h, recovered, Both.get_map]
    rfl

/-! ### The same in terms of the settings -/

variable {s : RateSettings R}

/-- A direction of a controller within its bounds is held to the bounds of the settings. -/
theorem WithinBounds.current_moveTo (h : c.WithinBounds s) (d : Direction) (x : R) :
    ((c.rates.get d).moveTo x).current = clamp s.rateFloorKbit (s.ceiling d) x := by
  rw [← (h.rates d).floor_eq, ← (h.rates d).ceiling_eq]
  rfl

omit [RateNumber R] in
theorem get_rate (c : RateController R) (d : Direction) :
    c.rate.get d = (c.rates.get d).current :=
  Both.get_map _ _ d

/-- What a tick leaves alone, whatever the phase is. -/
structure Kept (c next : RateController R) : Prop where
  totalBackoffs_eq : next.totalBackoffs = c.totalBackoffs
  signalledAt_eq : next.signalledAt = c.signalledAt
  reference_eq : ∀ d, next.reference.get d = c.reference.get d

theorem kept_tick (c : RateController R) (now : Instant) (rttMean : Option Span) :
    c.Kept (c.tick now rttMean).1 where
  totalBackoffs_eq := totalBackoffs_tick c now rttMean
  signalledAt_eq := signalledAt_tick c now rttMean
  reference_eq := reference_tick c now rttMean

/-- One step of growing. -/
structure Grown (s : RateSettings R) (c next : RateController R) : Prop where
  phase_eq : next.phase = .growing
  rate_eq : ∀ d, next.rate.get d = clamp s.rateFloorKbit (s.ceiling d) (c.rate.get d * 2.0)
  totalRecoveries_eq : next.totalRecoveries = c.totalRecoveries

theorem WithinBounds.grown (h : c.WithinBounds s) (hphase : c.phase = .growing) (now : Instant)
    (rttMean : Option Span) : c.Grown s (c.tick now rttMean).1 := by
  rw [tick_of_growing hphase]
  refine ⟨hphase, fun d => ?_, rfl⟩
  rw [get_rate, get_rate, rates_retarget, Both.get_map]
  exact h.current_moveTo d _

/-- One step on the recovery curves at the reading `now`. -/
structure Climbed (s : RateSettings R) (now : Instant) (c next : RateController R) : Prop where
  rate_eq : ∃ t, c.signalledAt = some t ∧ ∀ d, next.rate.get d = clamp s.rateFloorKbit (s.ceiling d)
    (Recovery.rate (c.reference.get d) (ofSeconds (now.since t)) s.backoffFraction s.cubicConstant)
  arrives : (∀ d, atMost (s.ceiling d) (next.rate.get d) = true) →
    next.phase = .growing ∧ next.totalRecoveries = c.totalRecoveries + 1
  stays : ¬ (∀ d, atMost (s.ceiling d) (next.rate.get d) = true) →
    next.phase = .recovering ∧ next.totalRecoveries = c.totalRecoveries

theorem WithinBounds.climbed (h : c.WithinBounds s) (hphase : c.phase = .recovering)
    {t : Instant} (ht : c.signalledAt = some t) (now : Instant) (rttMean : Option Span) :
    c.Climbed s now (c.tick now rttMean).1 := by
  have hrates := rates_tick_of_recovering hphase now rttMean
  have hceilings : (c.recovered now).all DirectionRate.atCeiling = true ↔
      ∀ d, atMost (s.ceiling d) ((c.tick now rttMean).1.rate.get d) = true := by
    rw [Both.all_iff]
    refine forall_congr' fun d => ?_
    rw [get_rate, hrates, recovered, Both.get_map, ← (h.rates d).ceiling_eq]
    rfl
  constructor
  · refine ⟨t, ht, fun d => ?_⟩
    have helapsed : (c.elapsedSecs now).getD 0.0 = ofSeconds (now.since t) := by
      rw [elapsedSecs, ht]
      rfl
    rw [get_rate, hrates, recovered, Both.get_map, helapsed, h.settings_eq, DirectionRate.recover,
      h.current_moveTo, reference, Both.get_map]
  · intro harrived
    rw [tick_of_arrival hphase (hceilings.mpr harrived)]
    exact ⟨rfl, rfl⟩
  · intro hbelow
    have hclimb := Bool.eq_false_iff.mpr fun hall => hbelow (hceilings.mp hall)
    rw [tick_of_climb hphase hclimb]
    exact ⟨hphase, rfl⟩

end RateController

/-! ## Cuts in a row -/

/-- A rate cut once. -/
def RateSettings.cutRate {R : Type} [RateNumber R] (s : RateSettings R) (d : Direction) (x : R) :
    R :=
  clamp s.rateFloorKbit (s.ceiling d) (x * s.backoffFraction)

namespace RateController

variable {R : Type} [RateNumber R] {s : RateSettings R} {c : RateController R}

theorem rate_signal (h : c.WithinBounds s) (now : Instant) (d : Direction) :
    (c.signal now).1.rate.get d = s.cutRate d (c.rate.get d) := by
  have hcut : (c.signal now).1.rates.get d = (c.rates.get d).cut s.backoffFraction := by
    rw [← h.settings_eq]
    exact Both.get_map _ _ d
  rw [get_rate, get_rate, hcut, RateSettings.cutRate, ← h.current_moveTo]
  rfl

/-- What latency increases at the readings `times`, one after the other, make of the controller `c`,
if there are any. -/
structure CutBack (s : RateSettings R) (c : RateController R) (times : List Instant)
    (next : RateController R) : Prop where
  totalBackoffs_eq : next.totalBackoffs = c.totalBackoffs + times.length
  totalRecoveries_eq : next.totalRecoveries = c.totalRecoveries
  rate_eq : ∀ d, next.rate.get d = (s.cutRate d)^[times.length] (c.rate.get d)
  reference_eq : ∀ d, next.reference.get d = (s.cutRate d)^[times.length - 1] (c.rate.get d)
  signalledAt_eq : next.signalledAt = times.getLast?

theorem cutBack_signal (h : c.WithinBounds s) (now : Instant) :
    CutBack s c [now] (c.signal now).1 where
  totalBackoffs_eq := rfl
  totalRecoveries_eq := rfl
  rate_eq := rate_signal h now
  reference_eq _ := rfl
  signalledAt_eq := rfl

/-- The reference of the last cut is the rate that the cuts before it have left. -/
theorem CutBack.signal {next : RateController R} {times : List Instant}
    (h : CutBack s c times next) (hnext : next.WithinBounds s) (now : Instant) :
    CutBack s c (times ++ [now]) (next.signal now).1 := by
  have hlength : (times ++ [now]).length = times.length + 1 := List.length_append
  constructor
  · rw [totalBackoffs_signal, h.totalBackoffs_eq, hlength, Nat.add_assoc]
  · exact h.totalRecoveries_eq
  · intro d
    rw [rate_signal hnext, h.rate_eq, hlength, Function.iterate_succ_apply']
  · intro d
    rw [reference_signal, h.rate_eq, hlength, Nat.add_sub_cancel]
  · rw [List.getLast?_concat]
    rfl

/-- The tick that follows only hands the rates on. -/
theorem CutBack.settle {next : RateController R} {times : List Instant}
    (h : CutBack s c times next) (hphase : next.phase = .backoff) (now : Instant)
    (rttMean : Option Span) : CutBack s c times (next.tick now rttMean).1 ∧
      (next.tick now rttMean).1.phase = .recovering := by
  rw [tick_of_backoff hphase]
  exact ⟨⟨h.totalBackoffs_eq, h.totalRecoveries_eq, h.rate_eq, h.reference_eq, h.signalledAt_eq⟩,
    rfl⟩

theorem cutBack_run [OrderedRates R] (h : c.WithinBounds s) (hs : s.Valid) {times : List Instant}
    (hne : times ≠ []) : CutBack s c times (c.run (times.map .signal)) ∧
      (c.run (times.map .signal)).phase = .backoff := by
  induction times using List.reverseRecOn with
  | nil => exact absurd rfl hne
  | append_singleton times now ih =>
    rw [List.map_append, List.map_singleton, run_concat]
    refine ⟨?_, rfl⟩
    rcases eq_or_ne times [] with rfl | hbefore
    · exact cutBack_signal h now
    · exact (ih hbefore).1.signal (h.run hs _) now

end RateController
end AdaptiveShaper
