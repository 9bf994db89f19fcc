import AdaptiveShaper.Proofs.Rate.Run
import AdaptiveShaper.Proofs.Settings.Checks

/-!
# Both directions are treated alike

With the two maxima exchanged, a controller does in each direction what it did in the other one:
exchanging the directions commutes with every call.
-/

namespace AdaptiveShaper

/-! ## Exchanging the directions -/

def Direction.opposite : Direction → Direction
  | .uplink => .downlink
  | .downlink => .uplink

namespace Both

variable {α β : Type}

@[simp] theorem get_swap (b : Both α) (d : Direction) : b.swap.get d = b.get d.opposite := by
  cases d <;> rfl

theorem any_swap (p : α → Bool) (b : Both α) : b.swap.any p = b.any p := Bool.or_comm _ _

theorem all_swap (p : α → Bool) (b : Both α) : b.swap.all p = b.all p := Bool.and_comm _ _

end Both

variable {R : Type}

/-- Setpoints of which each is handed to the other direction. -/
def Setpoint.exchange (p : Both (Setpoint R)) : Both (Setpoint R) :=
  ⟨{ p.downlink with direction := .uplink }, { p.uplink with direction := .downlink }⟩

namespace RateSettings

/-- The settings with the maxima of the two directions exchanged. -/
def mirror (s : RateSettings R) : RateSettings R :=
  { s with maxUploadKbit := s.maxDownloadKbit, maxDownloadKbit := s.maxUploadKbit }

theorem mirror_eq_self {s : RateSettings R} (h : s.maxUploadKbit = s.maxDownloadKbit) :
    s.mirror = s := by
  cases s
  cases h
  rfl

theorem Valid.mirror [RateNumber R] {s : RateSettings R} (h : s.Valid) : s.mirror.Valid where
  floorFits d := by
    cases d
    · exact h.floorFits .downlink
    · exact h.floorFits .uplink
  minRtt_pos := h.minRtt_pos
  minRtt_le := h.minRtt_le
  backoff_pos := h.backoff_pos
  backoff_lt_one := h.backoff_lt_one
  cubic_pos := h.cubic_pos
  cubic_finite := h.cubic_finite
  split_nonneg := h.split_nonneg
  split_finite := h.split_finite

/-- Exchanging twice changes nothing, so one direction of the equivalence gives the other. -/
theorem valid_mirror_iff [RateNumber R] (s : RateSettings R) : s.mirror.Valid ↔ s.Valid :=
  ⟨fun h => h.mirror, Valid.mirror⟩

end RateSettings

namespace RateController

/-- The controller with its directions exchanged. -/
def mirror (c : RateController R) : RateController R :=
  { c with settings := c.settings.mirror, rates := c.rates.swap }

theorem setpoints_mirror (c : RateController R) :
    c.mirror.setpoints = Setpoint.exchange c.setpoints := rfl

/-! ## Every call commutes with the exchange -/

section

variable [RateNumber R]

theorem splits_swap (s : RateSettings R) (rates : Both (DirectionRate R)) :
    splits s.mirror rates.swap = splits s rates :=
  Both.any_swap _ rates

theorem start_mirror (s : RateSettings R) : start s.mirror = (start s).mirror := by
  have hrates : Both.ofFn (initialRate s.mirror) = (Both.ofFn (initialRate s)).swap := rfl
  rw [start, hrates, splits_swap]
  rfl

/-- Both controllers see the same time elapsed, and arrive at their ceilings together. -/
theorem recover_mirror (c : RateController R) (now : Instant) :
    (c.mirror.recover now).1 = (c.recover now).1.mirror := by
  have hall := Both.all_swap DirectionRate.atCeiling (c.rates.map (DirectionRate.recover
    ((c.elapsedSecs now).getD 0.0) c.settings.backoffFraction c.settings.cubicConstant))
  unfold recover
  simp only
  split
  · next h =>
    rw [if_pos (hall.symm.trans h)]
    rfl
  · next h =>
    rw [if_neg fun hc => h (hall.trans hc)]
    rfl

theorem step_mirror (c : RateController R) (now : Instant) :
    (c.mirror.step now).1 = (c.step now).1.mirror := by
  have hphase : c.mirror.phase = c.phase := rfl
  cases h : c.phase with
  | growing =>
    simp only [step, hphase, h]
    rfl
  | backoff =>
    simp only [step, hphase, h]
    rfl
  | recovering =>
    simp only [step, hphase, h]
    exact c.recover_mirror now

theorem retarget_mirror (c : RateController R) (rttMean : Option Span) :
    c.mirror.retarget rttMean = (c.retarget rttMean).mirror := by
  have hsplits : splits c.mirror.settings c.mirror.rates = splits c.settings c.rates :=
    splits_swap c.settings c.rates
  unfold retarget
  rw [hsplits]
  cases rttMean <;> rfl

theorem tick_mirror (c : RateController R) (now : Instant) (rttMean : Option Span) :
    (c.mirror.tick now rttMean).1 = (c.tick now rttMean).1.mirror := by
  have hstep := step_mirror { c with totalTicks := c.totalTicks + 1 } now
  change ((({ c with totalTicks := c.totalTicks + 1 } : RateController R).mirror.step
    now).1.retarget rttMean) = _
  rw [hstep, retarget_mirror]
  rfl

theorem answer_mirror (c : RateController R) (call : RateCall) :
    c.mirror.answer call =
      ((c.answer call).1.mirror, (c.answer call).2.map Setpoint.exchange) := by
  cases call with
  | signal now => rfl
  | tick now rttMean =>
    simp only [answer, tick_mirror, setpoints_mirror, Option.map_some]

/-- Exchanging the directions before a run or after it comes to the same. -/
theorem run_mirror (c : RateController R) (calls : List RateCall) :
    c.mirror.run calls = (c.run calls).mirror := by
  induction calls generalizing c with
  | nil => rfl
  | cons call calls ih => rw [run_cons, run_cons, answer_mirror, ih]

end

/-! ## Two controllers -/

/-- The controller `c'` shows in each direction what `c` shows in the other one, and the same in
everything else. -/
structure Mirrors (c c' : RateController R) : Prop where
  phase_eq : c'.phase = c.phase
  rttTarget_eq : c'.rttTarget = c.rttTarget
  splitGso_eq : c'.splitGso = c.splitGso
  signalledAt_eq : c'.signalledAt = c.signalledAt
  totalBackoffs_eq : c'.totalBackoffs = c.totalBackoffs
  totalRecoveries_eq : c'.totalRecoveries = c.totalRecoveries
  totalTicks_eq : c'.totalTicks = c.totalTicks
  rate_eq : ∀ d, c'.rate.get d = c.rate.get d.opposite
  reference_eq : ∀ d, c'.reference.get d = c.reference.get d.opposite
  setpointRate_eq : ∀ d, (c'.setpoint d).rateKbit = (c.setpoint d.opposite).rateKbit

theorem mirrors_mirror (c : RateController R) : c.Mirrors c.mirror where
  phase_eq := rfl
  rttTarget_eq := rfl
  splitGso_eq := rfl
  signalledAt_eq := rfl
  totalBackoffs_eq := rfl
  totalRecoveries_eq := rfl
  totalTicks_eq := rfl
  rate_eq := Both.get_swap c.rate
  reference_eq := Both.get_swap c.reference
  setpointRate_eq := Both.get_swap c.rate

theorem rates_eq_of_mirror_eq {c : RateController R} (h : c.mirror = c) :
    c.rate.uplink = c.rate.downlink ∧ c.reference.uplink = c.reference.downlink := by
  have hrates : c.rates.downlink = c.rates.uplink := congrArg (fun c => c.rates.uplink) h
  exact ⟨congrArg DirectionRate.current hrates.symm, congrArg DirectionRate.reference hrates.symm⟩

/-- Settings are accepted exactly if those with the maxima exchanged are accepted. Then the two
controllers go through mirrored states along every run, at any clock readings, and each tick returns
setpoints with the rates exchanged. If the maxima are equal, so are the rates of the two directions
in every state. -/
theorem mirrored_run_start (s : RateSettings Float) :
    (s.validate = .ok () ↔ s.mirror.validate = .ok ()) ∧
      (s.validate = .ok () →
        new s = .ok (start s) ∧ new s.mirror = .ok (start s.mirror) ∧
        ∀ calls,
          Mirrors ((start s).run calls) ((start s.mirror).run calls) ∧
          (∀ call, (((start s.mirror).run calls).answer call).2 =
            (((start s).run calls).answer call).2.map Setpoint.exchange) ∧
          (s.maxUploadKbit = s.maxDownloadKbit →
            ((start s).run calls).rate.uplink = ((start s).run calls).rate.downlink ∧
            ((start s).run calls).reference.uplink =
              ((start s).run calls).reference.downlink)) := by
  have haccepted : s.validate = .ok () ↔ s.mirror.validate = .ok () := by
    rw [s.validate_eq_ok_iff, s.mirror.validate_eq_ok_iff, s.valid_mirror_iff]
  refine ⟨haccepted, fun h => ⟨?_, ?_, fun calls => ?_⟩⟩
  · rw [new, h]
    rfl
  · rw [new, haccepted.mp h]
    rfl
  · have hrun : (start s.mirror).run calls = ((start s).run calls).mirror := by
      rw [start_mirror, run_mirror]
    refine ⟨?_, fun call => ?_, fun hmax => ?_⟩
    · rw [hrun]
      exact mirrors_mirror _
    · rw [hrun, answer_mirror]
    · rw [RateSettings.mirror_eq_self hmax] at hrun
      exact rates_eq_of_mirror_eq hrun.symm

/-- A link that is faster downwards, with a latency increase in between. -/
theorem mirrored_run_start_uneven :
    ({ RateSettings.standard with maxUploadKbit := 20000.0 } : RateSettings Float).validate =
        .ok () ∧
      Mirrors
        ((start { RateSettings.standard with maxUploadKbit := 20000.0 }).run
          [.tick ⟨1⟩ none, .signal ⟨2⟩, .tick ⟨3⟩ none])
        ((start { RateSettings.standard with maxDownloadKbit := 20000.0 }).run
          [.tick ⟨1⟩ none, .signal ⟨2⟩, .tick ⟨3⟩ none]) := by
  have h : ({ RateSettings.standard with maxUploadKbit := 20000.0 } :
      RateSettings Float).validate = .ok () := rfl
  exact ⟨h, ((mirrored_run_start _).2 h).2.2 _ |>.1⟩

end RateController
end AdaptiveShaper
