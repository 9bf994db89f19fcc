import AdaptiveShaper.Proofs.Binary64.Scaling
import AdaptiveShaper.Proofs.Control.Publication
import AdaptiveShaper.Proofs.Rate.Phases
import AdaptiveShaper.Proofs.Rate.Steps

/-!
# What a tick makes of a batch of samples

The samples that wait for a tick are compared one after the other, the first of them with the last
sample of the tick before. Each strict increase cuts the rates at once, and after a cut the step of
the rate controller adds nothing. A batch without an increase is one step of growing or one on the
recovery curves.
-/

namespace AdaptiveShaper

/-! ## Positions of increases -/

/-- The positions of the samples that are strictly greater than the one before them, counted from
`i`. The first sample comes after `previous`. -/
def rises (previous : Span) (i : Nat) : List Span → List Nat
  | [] => []
  | x :: xs =>
    if latencyIncreased previous x then i :: rises x (i + 1) xs else rises x (i + 1) xs

theorem length_rises (previous : Span) (i : Nat) (xs : List Span) :
    (rises previous i xs).length = increases (previous :: xs) := by
  induction xs generalizing previous i with
  | nil => rfl
  | cons x xs ih =>
    rw [increases_cons_cons, ← ih x (i + 1), rises]
    split <;> rfl

example : rises .longest 0 [.ofMillis 5, .ofMillis 7, .ofMillis 6, .ofMillis 8] = [1, 3] := by
  decide

/-! ## Cuts lower the rates -/

namespace RateSettings

open RateNumber

variable {s : RateSettings Float} {d : Direction} {x : Float}

theorem Valid.within_cutRate (hs : s.Valid) (d : Direction) (x : Float) :
    Within s.rateFloorKbit (s.ceiling d) (s.cutRate d x) :=
  within_clamp (hs.floor_atMost_ceiling d) _

/-- A share of a rate within the bounds may be raised to the floor, but not beyond the rate. -/
theorem Valid.cutRate_le (hs : s.Valid) (hx : Within s.rateFloorKbit (s.ceiling d) x) :
    s.cutRate d x ≤ x := by
  obtain ⟨hlo, hhi⟩ := hx
  have hone : 1.0 ≤ x := Binary64.le_trans hs.one_le_floor (of_decide_eq_true hlo)
  have hshare : x * s.backoffFraction ≤ x :=
    Binary64.mul_le_self hone (of_decide_eq_true hs.backoff_pos)
      (of_decide_eq_true hs.backoff_lt_one)
  by_cases hfloor : s.rateFloorKbit ≤ x * s.backoffFraction
  · have hceiling := Binary64.le_trans hshare (of_decide_eq_true hhi)
    rw [cutRate, clamp_eq_self (decide_eq_true hfloor) (decide_eq_true hceiling)]
    exact hshare
  · -- the share is a number, since it is at most `x`
    have hbelow : below (x * s.backoffFraction) s.rateFloorKbit = true := by
      obtain ⟨hnan, _⟩ := OrderedRates.isNaN_of_atMost _ x (decide_eq_true hshare)
      obtain ⟨hfloornan, _⟩ := OrderedRates.isNaN_of_atMost _ x hlo
      rw [OrderedRates.below_eq _ _ hnan hfloornan]
      simpa [atMost] using hfloor
    rw [cutRate, clamp, if_pos hbelow, ite_self]
    exact of_decide_eq_true hlo

theorem Valid.iterate_cutRate_le (hs : s.Valid) (hx : Within s.rateFloorKbit (s.ceiling d) x)
    (j : Nat) : (s.cutRate d)^[j + 1] x ≤ (s.cutRate d)^[j] x := by
  rw [Function.iterate_succ_apply']
  apply hs.cutRate_le
  cases j with
  | zero => exact hx
  | succ j =>
    rw [Function.iterate_succ_apply']
    exact hs.within_cutRate d _

end RateSettings

/-! ## The loop -/

namespace ControlLoop

theorem controller_take (l : ControlLoop) (now : Instant) (s : RttSample) :
    (l.take now s).1.controller = if latencyIncreased l.detector.previous s.span then
      (l.controller.signal now).1 else l.controller := by
  cases h : latencyIncreased l.detector.previous s.span <;> simp [take, Detector.observe, h]

theorem controller_takeAll (l : ControlLoop) (reading : Nat → Instant) (i : Nat)
    (samples : List RttSample) :
    (l.takeAll reading i samples).1.controller = l.controller.run
      (((rises l.detector.previous i (samples.map RttSample.span)).map reading).map .signal) := by
  induction samples generalizing l i with
  | nil => rfl
  | cons s samples ih =>
    change ((l.take (reading i) s).1.takeAll reading (i + 1) samples).1.controller = _
    rw [ih, detector_take, controller_take, List.map_cons, rises]
    split <;> rfl

end ControlLoop

namespace Course

variable {σ : Type} {s : Settings} {c : Course σ}

/-! ## The tick of a course -/

def controller (c : Course σ) : RateController Float := c.service.loop.controller

/-- The spans of the samples that wait for the next tick. -/
def batch (c : Course σ) : List Span := c.service.queue.waiting.map RttSample.span

/-- How many increases the next tick finds. -/
def pending (c : Course σ) : Nat := increases (c.service.loop.detector.previous :: c.batch)

/-- When a tick at the readings of `clock` finds these increases, in order. -/
def cutTimes (c : Course σ) (clock : TickClock) : List Instant :=
  (rises c.service.loop.detector.previous 0 c.batch).map clock.sample

theorem length_cutTimes (c : Course σ) (clock : TickClock) :
    (c.cutTimes clock).length = c.pending := by
  rw [cutTimes, List.length_map, length_rises, pending]

/-- To the rate controller a tick is its increases and one step. -/
theorem controller_tick (actuator : Actuator σ) (c : Course σ) (clock : TickClock) :
    ∃ rttMean, (c.tick actuator clock).controller =
      ((c.controller.run ((c.cutTimes clock).map .signal)).tick clock.control rttMean).1 := by
  have htaken := c.service.loop.controller_takeAll clock.sample 0 c.service.queue.waiting
  let rttMean := (c.service.loop.takeAll clock.sample 0 c.service.queue.waiting).1.rttMean?
  exact ⟨rttMean, congrArg (fun r => (r.tick clock.control rttMean).1) htaken⟩

/-- Between ticks the rate controller has made a run, and the last call of the run was a tick. -/
structure Reached (s : Settings) (c : Course σ) : Prop where
  exists_calls : ∃ calls, c.controller = (RateController.start s.rate).run calls
  phase_ne_backoff : c.controller.phase ≠ .backoff

theorem Reached.tick (h : c.Reached s) (actuator : Actuator σ) (clock : TickClock) :
    (c.tick actuator clock).Reached s := by
  obtain ⟨calls, hcalls⟩ := h.exists_calls
  obtain ⟨rttMean, htick⟩ := controller_tick actuator c clock
  constructor
  · refine ⟨calls ++ (c.cutTimes clock).map .signal ++ [.tick clock.control rttMean], ?_⟩
    rw [htick, hcalls, RateController.run_concat, RateController.run_append]
    rfl
  · rw [htick]
    exact RateController.phase_tick_ne_backoff _ _ _

theorem reached_ofSettings (s : Settings) (actuator : Actuator σ) (port : σ)
    (actions : List Action) : (ofSettings s actuator port actions).Reached s := by
  have hstart : (begin (.start s) port).Reached s := ⟨⟨[], rfl⟩, Phase.noConfusion⟩
  refine run_induction hstart ?_ ?_ ?_ actions
  · intro c i h
    exact ⟨h.exists_calls, h.phase_ne_backoff⟩
  · intro c clock h
    exact h.tick actuator clock
  · intro c h
    exact ⟨h.exists_calls, h.phase_ne_backoff⟩

theorem Reached.withinBounds (h : c.Reached s) (hs : s.Valid) :
    c.controller.WithinBounds s.rate := by
  obtain ⟨calls, hcalls⟩ := h.exists_calls
  rw [hcalls]
  exact (RateController.WithinBounds.start hs.rate).run hs.rate calls

/-- A controller that recovers knows when latency has increased. -/
theorem Reached.exists_signalledAt (h : c.Reached s) (hphase : c.controller.phase = .recovering) :
    ∃ t, c.controller.signalledAt = some t := by
  obtain ⟨calls, hcalls⟩ := h.exists_calls
  have hrecalls := RateController.recalls_run s.rate calls
  rw [← hcalls] at hrecalls
  have hle := hrecalls.recoveries_le
  rw [hphase, hrecalls.totalBackoffs_eq, if_neg (by decide)] at hle
  have hsome : c.controller.signalledAt.isSome = true := by
    rw [hrecalls.signalledAt_eq, List.getLast?_isSome, ← List.length_pos_iff]
    omega
  exact Option.isSome_iff_exists.mp hsome

/-! ## Batches with and without increases -/

theorem Reached.cutBack (h : c.Reached s) (hs : s.Valid) (hpending : 0 < c.pending)
    (actuator : Actuator σ) (clock : TickClock) :
    RateController.CutBack s.rate c.controller (c.cutTimes clock)
        (c.tick actuator clock).controller ∧
      (c.tick actuator clock).controller.phase = .recovering := by
  have hne : c.cutTimes clock ≠ [] := by
    rwa [← List.length_pos_iff, length_cutTimes]
  obtain ⟨rttMean, htick⟩ := controller_tick actuator c clock
  obtain ⟨hcut, hphase⟩ := RateController.cutBack_run (h.withinBounds hs) hs.rate hne
  rw [htick]
  exact hcut.settle hphase clock.control rttMean

theorem controller_tick_of_pending (hpending : c.pending = 0) (actuator : Actuator σ)
    (clock : TickClock) : ∃ rttMean, (c.tick actuator clock).controller =
      (c.controller.tick clock.control rttMean).1 := by
  have hnil : c.cutTimes clock = [] := by
    rw [← List.length_eq_zero_iff, length_cutTimes, hpending]
  obtain ⟨rttMean, htick⟩ := controller_tick actuator c clock
  rw [hnil] at htick
  exact ⟨rttMean, htick⟩

/-- What a tick at the readings of `clock` makes of the course `c` and the batch that waits. -/
structure BatchStep (s : Settings) (clock : TickClock) (c next : Course σ) : Prop where
  drained_eq : next.drained = c.drained ++ c.service.queue.waiting
  /-- The uplink's rate is sent first. -/
  sent : ∃ up down, next.exchanges = c.exchanges ++ [up, down] ∧
    up.call.setpoint.direction = .uplink ∧
    up.call.setpoint.rateKbit = next.controller.rate.get .uplink ∧
    down.call.setpoint.direction = .downlink ∧
    down.call.setpoint.rateKbit = next.controller.rate.get .downlink
  length_cutTimes : (c.cutTimes clock).length = c.pending
  /-- With increases the rates are cut as often, and nothing else happens to them. -/
  cut : 0 < c.pending →
    RateController.CutBack s.rate c.controller (c.cutTimes clock) next.controller ∧
      next.controller.phase = .recovering
  /-- Every cut starts from its reference, and none raises the rate. -/
  lowers : ∀ d, ∀ j < c.pending, (s.rate.cutRate d)^[j + 1] (c.controller.rate.get d) ≤
    (s.rate.cutRate d)^[j] (c.controller.rate.get d)
  /-- Without an increase there is one step of the phase that the controller is in. -/
  keeps : c.pending = 0 → c.controller.Kept next.controller
  grows : c.pending = 0 → c.controller.phase = .growing →
    c.controller.Grown s.rate next.controller
  climbs : c.pending = 0 → c.controller.phase = .recovering →
    c.controller.Climbed s.rate clock.control next.controller
  phase_ne_backoff : c.controller.phase ≠ .backoff ∧ next.controller.phase ≠ .backoff

theorem Reached.batchStep (h : c.Reached s) (hs : s.Valid) (actuator : Actuator σ)
    (clock : TickClock) : BatchStep s clock c (c.tick actuator clock) where
  drained_eq := rfl
  sent := ⟨_, _, rfl, rfl, rfl, rfl, rfl⟩
  length_cutTimes := c.length_cutTimes clock
  cut hpending := h.cutBack hs hpending actuator clock
  lowers d j _ := hs.rate.iterate_cutRate_le ((h.withinBounds hs).within_rate d) j
  keeps hpending := by
    obtain ⟨rttMean, htick⟩ := controller_tick_of_pending hpending actuator clock
    rw [htick]
    exact RateController.kept_tick _ _ _
  grows hpending hphase := by
    obtain ⟨rttMean, htick⟩ := controller_tick_of_pending hpending actuator clock
    rw [htick]
    exact (h.withinBounds hs).grown hphase _ _
  climbs hpending hphase := by
    obtain ⟨rttMean, htick⟩ := controller_tick_of_pending hpending actuator clock
    obtain ⟨t, ht⟩ := h.exists_signalledAt hphase
    rw [htick]
    exact (h.withinBounds hs).climbed hphase ht _ _
  phase_ne_backoff := ⟨h.phase_ne_backoff, (h.tick actuator clock).phase_ne_backoff⟩

/-- From accepted settings on, after anything but a stop, a tick cuts the rates once for each strict
increase in the batch that it drains, and otherwise makes one step of its phase. -/
theorem batchStep_ofSettings (s : Settings) (h : s.validate = .ok ()) (actuator : Actuator σ)
    (port : σ) (actions : List Action) (hstop : Action.stop ∉ actions) (clock : TickClock) :
    Service.new s = .ok (.start s) ∧
      BatchStep s clock (ofSettings s actuator port actions)
        (ofSettings s actuator port (actions ++ [.tick clock])) := by
  have hs := s.validate_eq_ok_iff.mp h
  refine ⟨Service.new_eq_ok h, ?_⟩
  rw [ofSettings_concat_tick s actuator port hstop]
  exact (reached_ofSettings s actuator port actions).batchStep hs actuator clock

/-- Two increases in a batch. -/
theorem batchStep_ofSettings_standard :
    Settings.standard.validate = .ok () ∧
      Action.stop ∉ [.record (.nanos 5), .record (.nanos 7), .record (.nanos 9)] ∧
      (ofSettings .standard .dryRun ()
        [.record (.nanos 5), .record (.nanos 7), .record (.nanos 9)]).pending = 2 ∧
      BatchStep .standard (.steady ⟨2⟩ ⟨3⟩)
        (ofSettings .standard .dryRun ()
          [.record (.nanos 5), .record (.nanos 7), .record (.nanos 9)])
        (ofSettings .standard .dryRun () ([.record (.nanos 5), .record (.nanos 7),
          .record (.nanos 9)] ++ [.tick (.steady ⟨2⟩ ⟨3⟩)])) := by
  have h : Settings.standard.validate = .ok () := rfl
  have hstop : Action.stop ∉ [.record (.nanos 5), .record (.nanos 7), .record (.nanos 9)] := by
    simp
  exact ⟨h, hstop, by decide +kernel, (batchStep_ofSettings .standard h .dryRun () _ hstop _).2⟩

end Course
end AdaptiveShaper
