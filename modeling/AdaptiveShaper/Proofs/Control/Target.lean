import AdaptiveShaper.Proofs.Control.Batches
import AdaptiveShaper.Proofs.Control.Commands

/-!
# The round-trip time in the commands

A tick moves the target to the mean of the window, held to its bounds, and its two calls give the
low 64 bits of the target in microseconds. The checks on the bounds accept every lower bound above
zero and any upper bound; so a target may be less than a microsecond, or have more microseconds than
are sent. The settings for which neither happens are those found here.
-/

namespace AdaptiveShaper

/-- The call gives the span in whole microseconds, and these are not zero. -/
def Call.Gives (x : Call) (target : Span) : Prop :=
  ∃ n : Nat, (x.setpoint.arguments x.device)[7]? = some (toString n ++ "us") ∧
    1 ≤ n ∧ n * 1000 ≤ target.nanos ∧ target.nanos < (n + 1) * 1000

def Settings.withRttBounds (s : Settings) (lo hi : Span) : Settings :=
  { s with rate := { s.rate with minRtt := lo, maxRtt := hi } }

/-- The word of a call for the round-trip time can stand for one number only. -/
theorem Call.eq_of_word_eq {n k : Nat} (h : toString n ++ "us" = toString k ++ "us") : n = k := by
  have hread := congrArg (Request.quantity? "us") h
  rw [Request.quantity?_append, Request.quantity?_append] at hread
  exact Option.some.inj hread

/-- A call with the low 64 bits of a target's microseconds gives the target if there are no more
bits, and at least one microsecond. -/
theorem Call.gives_iff {x : Call} {target : Span}
    (h : (x.setpoint.arguments x.device)[7]? = some (toString (target.micros % 2 ^ 64) ++ "us")) :
    x.Gives target ↔ 1000 ≤ target.nanos ∧ target.micros < 2 ^ 64 := by
  unfold Span.micros at h ⊢
  constructor
  · rintro ⟨n, hword, hpos, hle, hlt⟩
    have hn : target.nanos / 1000 % 2 ^ 64 = n :=
      Call.eq_of_word_eq (Option.some.inj (h.symm.trans hword))
    omega
  · rintro ⟨hmicro, hbits⟩
    rw [Nat.mod_eq_of_lt hbits] at h
    exact ⟨target.nanos / 1000, h, by omega, by omega, by omega⟩

theorem Span.nanos_clamp_le (d lo hi : Span) : (d.clamp lo hi).nanos ≤ max d.nanos lo.nanos := by
  unfold clamp
  split
  · exact Nat.le_max_right _ _
  · split
    · next _ h => exact (Nat.le_of_lt h).trans (Nat.le_max_left _ _)
    · exact Nat.le_max_left _ _

/-! ## The controller -/

namespace RateController

variable {R : Type} [RateNumber R]

theorem rttTarget_step (c : RateController R) (now : Instant) :
    (c.step now).1.rttTarget = c.rttTarget := by
  unfold step
  split
  · rfl
  · rfl
  · unfold recover
    simp only
    split <;> rfl

theorem rttTarget_tick (c : RateController R) (now : Instant) (rttMean : Option Span) :
    (c.tick now rttMean).1.rttTarget = (rttMean.map c.settings.clampRtt).getD c.rttTarget := by
  have hsettings := settings_step { c with totalTicks := c.totalTicks + 1 } now
  have htarget := rttTarget_step { c with totalTicks := c.totalTicks + 1 } now
  cases rttMean with
  | none => exact htarget
  | some mean => exact congrArg (fun s => s.clampRtt mean) hsettings

end RateController

/-! ## The loop -/

namespace ControlLoop

theorem aim_takeAll (l : ControlLoop) (reading : Nat → Instant) (i : Nat)
    (samples : List RttSample) :
    (l.takeAll reading i samples).1.controller.settings = l.controller.settings ∧
      (l.takeAll reading i samples).1.controller.rttTarget = l.controller.rttTarget := by
  induction samples generalizing l i with
  | nil => exact ⟨rfl, rfl⟩
  | cons x samples ih =>
    obtain ⟨hsettings, htarget⟩ := ih (l.take (reading i) x).1 (i + 1)
    change ((l.take (reading i) x).1.takeAll reading (i + 1) samples).1.controller.settings = _ ∧
      ((l.take (reading i) x).1.takeAll reading (i + 1) samples).1.controller.rttTarget = _
    rw [hsettings, htarget, controller_take]
    split <;> exact ⟨rfl, rfl⟩

theorem nanos_le_of_rttMean? {l : ControlLoop} {mean : Span} (h : l.rttMean? = some mean) :
    mean.nanos ≤ 0xffff_ffff_ffff_ffff := by
  unfold rttMean? SlidingWindow.meanSpan? at h
  cases hmean : l.rttWindow.mean? with
  | error e =>
    rw [hmean] at h
    cases h
  | ok x =>
    rw [hmean] at h
    obtain rfl : Span.ofNanos (Binary64.toWhole x) = mean := Option.some.inj h
    rw [Span.nanos_ofNanos]
    exact (Nat.min_le_left _ _).trans (Binary64.toWhole_le x)

end ControlLoop

/-! ## Courses -/

namespace Course

variable {σ : Type} {s : Settings} {c : Course σ}

/-- The calls of the last tick. -/
def lastCalls (c : Course σ) : List Call := (c.exchanges.map Exchange.call).rtake 2

/-- After a tick the target is the mean of the window, held to its bounds. -/
theorem rttTarget_tick (actuator : Actuator σ) (c : Course σ) (clock : TickClock) :
    (c.tick actuator clock).controller.rttTarget =
      ((c.tick actuator clock).service.loop.rttMean?.map c.controller.settings.clampRtt).getD
        c.controller.rttTarget := by
  obtain ⟨hsettings, htarget⟩ :=
    c.service.loop.aim_takeAll clock.sample 0 c.service.queue.waiting
  have htick := RateController.rttTarget_tick
    (c.service.loop.takeAll clock.sample 0 c.service.queue.waiting).1.controller clock.control
    (c.service.loop.takeAll clock.sample 0 c.service.queue.waiting).1.rttMean?
  rw [hsettings, htarget] at htick
  exact htick

/-- The calls of a tick give the target after it, as far as 64 bits do. -/
theorem lastCalls_tick (actuator : Actuator σ) (c : Course σ) (clock : TickClock) :
    (c.tick actuator clock).lastCalls.length = 2 ∧
      ∀ x ∈ (c.tick actuator clock).lastCalls, (x.setpoint.arguments x.device)[7]? =
        some (toString ((c.tick actuator clock).controller.rttTarget.micros % 2 ^ 64) ++ "us") := by
  let calls := (c.service.regulate clock).1.loop.calls
  have hlast : (c.tick actuator clock).lastCalls = [calls.uplink, calls.downlink] := by
    have hcalls : (c.tick actuator clock).exchanges.map Exchange.call =
        c.exchanges.map Exchange.call ++ [calls.uplink, calls.downlink] := List.map_append
    rw [lastCalls, hcalls]
    simp [List.rtake]
  rw [hlast]
  refine ⟨rfl, fun x hx => ?_⟩
  simp only [List.mem_cons, List.not_mem_nil, or_false] at hx
  rcases hx with rfl | rfl
  · rfl
  · rfl

/-- The target of a course comes from the initial round-trip time or from a mean. -/
structure Aimed (s : Settings) (c : Course σ) : Prop where
  conforms : c.service.loop.Conforms s
  exists_rtt : ∃ rtt : Span, (rtt = s.rate.initialRtt ∨ rtt.nanos ≤ 0xffff_ffff_ffff_ffff) ∧
    c.controller.rttTarget = s.rate.clampRtt rtt

theorem Aimed.tick (h : c.Aimed s) (hs : s.Valid) (actuator : Actuator σ) (clock : TickClock) :
    (c.tick actuator clock).Aimed s := by
  refine ⟨h.conforms.tick hs clock _ _, ?_⟩
  have hsettings : c.controller.settings = s.rate := h.conforms.controller.settings_eq
  rw [rttTarget_tick, hsettings]
  cases hmean : (c.tick actuator clock).service.loop.rttMean? with
  | none => exact h.exists_rtt
  | some mean => exact ⟨mean, .inr (ControlLoop.nanos_le_of_rttMean? hmean), rfl⟩

theorem aimed_ofSettings (hs : s.Valid) (actuator : Actuator σ) (port : σ)
    (actions : List Action) : (ofSettings s actuator port actions).Aimed s := by
  have hstart : (begin (.start s) port).Aimed s := ⟨.start hs, s.rate.initialRtt, .inl rfl, rfl⟩
  refine run_induction hstart ?_ ?_ ?_ actions
  · exact fun _ _ h => ⟨h.conforms, h.exists_rtt⟩
  · exact fun _ clock h => h.tick hs actuator clock
  · exact fun _ h => ⟨h.conforms, h.exists_rtt⟩

/-- If the lower bound and the target at the start have no more than 64 bits of microseconds, no
target has more. -/
theorem Aimed.micros_lt (h : c.Aimed s) (hs : s.Valid)
    (hinitial : (s.rate.clampRtt s.rate.initialRtt).micros < 2 ^ 64) :
    c.controller.rttTarget.micros < 2 ^ 64 := by
  obtain ⟨rtt, hrtt, htarget⟩ := h.exists_rtt
  rw [htarget]
  rcases hrtt with rfl | hbits
  · exact hinitial
  · have hmin : s.rate.minRtt.nanos ≤ (s.rate.clampRtt s.rate.initialRtt).nanos :=
      Span.le_clamp hs.rate.minRtt_le
    have hclamp : (s.rate.clampRtt rtt).nanos ≤ max rtt.nanos s.rate.minRtt.nanos :=
      rtt.nanos_clamp_le _ _
    unfold Span.micros at hinitial ⊢
    omega

/-! ### Where it goes wrong -/

theorem rttTarget_of_no_samples (s : Settings) (actuator : Actuator σ) (port : σ)
    (clock : TickClock) : (ofSettings s actuator port [.tick clock]).controller.rttTarget =
      s.rate.clampRtt s.rate.initialRtt := by
  have hfirst : ofSettings s actuator port [.tick clock] =
      (begin (.start s) port).tick actuator clock :=
    ofSettings_concat_tick s actuator port List.not_mem_nil clock
  rw [hfirst, rttTarget_tick]
  rfl

theorem meanSpan?_of_nanosecond (capacity : Nat) :
    ((SlidingWindow.empty capacity).push (Span.ofNanos 1)).1.meanSpan? = .ok (.ofNanos 1) := by
  have hmean : Span.ofNanos (Binary64.toWhole ((0.0 + (Span.ofNanos 1).toFloat) / Float.ofNat 1)) =
      .ofNanos 1 := by decide +kernel
  rw [SlidingWindow.fst_push_empty, WindowSample.toFloat_span]
  exact congrArg Except.ok hmean

theorem rttMean?_of_nanosecond (hs : s.Valid) (actuator : Actuator σ) (port : σ)
    (clock : TickClock) :
    (((begin (.start s) port).record (.nanos 1)).tick actuator clock).service.loop.rttMean? =
      some (.ofNanos 1) := by
  let q := IngestQueue.empty s.ingestQueueCapacity
  have hread : (SampleInput.nanos 1).read = .ok (.ofNanos 1) := rfl
  have hwaiting : (q.record (.nanos 1)).queue.waiting = [⟨.ofNanos 1, 0⟩] := by
    rw [q.record_of_ok hread, q.enqueue_of_room rfl hs.ingestQueueCapacity_pos]
    rfl
  change ((ControlLoop.start s).takeAll clock.sample 0
    (q.record (.nanos 1)).queue.waiting).1.rttWindow.meanSpan?.toOption = _
  rw [hwaiting]
  change ((ControlLoop.start s).take (clock.sample 0)
    ⟨.ofNanos 1, 0⟩).1.rttWindow.meanSpan?.toOption = _
  rw [ControlLoop.rttWindow_take]
  exact congrArg Except.toOption (meanSpan?_of_nanosecond s.windowCapacity)

/-- With a lower bound of less than a microsecond, one sample leads to such a target. -/
theorem nanos_rttTarget_of_nanosecond (hs : s.Valid) (hmin : s.rate.minRtt.nanos < 1000)
    (actuator : Actuator σ) (port : σ) (clock : TickClock) :
    (ofSettings s actuator port
      ([.record (.nanos 1)] ++ [.tick clock])).controller.rttTarget.nanos < 1000 := by
  have hstop : Action.stop ∉ [Action.record (.nanos 1)] := by simp
  have hafter : ofSettings s actuator port ([.record (.nanos 1)] ++ [.tick clock]) =
      ((begin (.start s) port).record (.nanos 1)).tick actuator clock :=
    ofSettings_concat_tick s actuator port hstop clock
  have hclamp : (s.rate.clampRtt (.ofNanos 1)).nanos ≤ max 1 s.rate.minRtt.nanos :=
    (Span.ofNanos 1).nanos_clamp_le _ _
  rw [hafter, rttTarget_tick, rttMean?_of_nanosecond hs]
  exact hclamp.trans_lt (by omega)

theorem lastCalls_ofSettings (s : Settings) (actuator : Actuator σ) (port : σ)
    {actions : List Action} (hstop : Action.stop ∉ actions) {clock : TickClock}
    (hc : c = ofSettings s actuator port (actions ++ [.tick clock])) :
    c.lastCalls.length = 2 ∧ ∀ x ∈ c.lastCalls, (x.setpoint.arguments x.device)[7]? =
      some (toString (c.controller.rttTarget.micros % 2 ^ 64) ++ "us") := by
  rw [hc, ofSettings_concat_tick s actuator port hstop]
  exact lastCalls_tick actuator _ clock

theorem gives_target_iff (s : Settings) (actuator : Actuator σ) (port : σ)
    {actions : List Action} (hstop : Action.stop ∉ actions) {clock : TickClock}
    (hc : c = ofSettings s actuator port (actions ++ [.tick clock])) :
    (∀ x ∈ c.lastCalls, x.Gives c.controller.rttTarget) ↔
      1000 ≤ c.controller.rttTarget.nanos ∧ c.controller.rttTarget.micros < 2 ^ 64 := by
  obtain ⟨hlength, hwords⟩ := lastCalls_ofSettings s actuator port hstop hc
  obtain ⟨x, hx⟩ := List.exists_mem_of_length_pos (by omega : 0 < c.lastCalls.length)
  exact ⟨fun h => (Call.gives_iff (hwords x hx)).mp (h x hx),
    fun h y hy => (Call.gives_iff (hwords y hy)).mpr h⟩

/-- From accepted settings on, whatever samples are handed in and answers the calls get: after a
tick the target is within its bounds, and both calls give its microseconds, reduced to 64 bits.
These are the microseconds of the target, and not zero, after every tick of every course exactly if
the lower bound is at least a microsecond and the target at the start has no more than 64 bits of
microseconds. -/
theorem gives_target_ofSettings_iff (s : Settings) (h : s.validate = .ok ()) :
    Service.new s = .ok (.start s) ∧
      (∀ (σ : Type) (actuator : Actuator σ) (port : σ) (actions : List Action) (clock : TickClock),
        Action.stop ∉ actions → ∀ c,
        c = ofSettings s actuator port (actions ++ [.tick clock]) →
        s.rate.minRtt ≤ c.controller.rttTarget ∧ c.controller.rttTarget ≤ s.rate.maxRtt ∧
          c.lastCalls.length = 2 ∧
          ∀ x ∈ c.lastCalls, (x.setpoint.arguments x.device)[7]? =
            some (toString (c.controller.rttTarget.micros % 2 ^ 64) ++ "us")) ∧
      ((∀ (σ : Type) (actuator : Actuator σ) (port : σ) (actions : List Action)
        (clock : TickClock), Action.stop ∉ actions → ∀ c,
        c = ofSettings s actuator port (actions ++ [.tick clock]) →
        ∀ x ∈ c.lastCalls, x.Gives c.controller.rttTarget) ↔
        1000 ≤ s.rate.minRtt.nanos ∧ (s.rate.clampRtt s.rate.initialRtt).micros < 2 ^ 64) := by
  have hs := s.validate_eq_ok_iff.mp h
  refine ⟨Service.new_eq_ok h, ?_, ?_, ?_⟩
  · intro σ actuator port actions clock hstop c hc
    have hbounds : c.service.loop.controller.WithinBounds s.rate := by
      rw [hc]
      exact (aimed_ofSettings hs actuator port _).conforms.controller
    exact ⟨hbounds.minRtt_le, hbounds.le_maxRtt, lastCalls_ofSettings s actuator port hstop hc⟩
  · intro hgives
    -- one course shows that the lower bound is needed, another the target at the start
    have hrecord : Action.stop ∉ [Action.record (.nanos 1)] := by simp
    obtain ⟨hmicro, _⟩ := (gives_target_iff s .dryRun () hrecord rfl).mp
      (hgives _ .dryRun () _ (.steady .start .start) hrecord _ rfl)
    obtain ⟨_, hbits⟩ := (gives_target_iff s .dryRun () List.not_mem_nil rfl).mp
      (hgives _ .dryRun () [] (.steady .start .start) List.not_mem_nil _ rfl)
    rw [List.nil_append, rttTarget_of_no_samples] at hbits
    refine ⟨?_, hbits⟩
    by_contra hmin
    have hshort := nanos_rttTarget_of_nanosecond hs (by omega) .dryRun () (.steady .start .start)
    omega
  · rintro ⟨hmin, hinitial⟩ σ actuator port actions clock hstop c hc
    have haimed : c.Aimed s := by
      rw [hc]
      exact aimed_ofSettings hs actuator port _
    have hle := haimed.conforms.controller.minRtt_le
    exact (gives_target_iff s actuator port hstop hc).mpr
      ⟨hmin.trans hle, haimed.micros_lt hs hinitial⟩

/-- A course with the standard settings. -/
theorem gives_target_ofSettings_standard :
    Settings.standard.validate = .ok () ∧
      Action.stop ∉ [.record (.nanos 1), .record (.nanos 12_345_678)] ∧
      (let c := ofSettings .standard .recording ⟨[], ⟨true, false⟩⟩
        ([.record (.nanos 1), .record (.nanos 12_345_678)] ++ [.tick (.steady .start .start)])
       ∀ x ∈ c.lastCalls, x.Gives c.controller.rttTarget) := by
  have h : Settings.standard.validate = .ok () := rfl
  have hstop : Action.stop ∉ [.record (.nanos 1), .record (.nanos 12_345_678)] := by simp
  have hbounds : 1000 ≤ Settings.standard.rate.minRtt.nanos ∧
      (Settings.standard.rate.clampRtt Settings.standard.rate.initialRtt).micros < 2 ^ 64 := by
    decide
  exact ⟨h, hstop, (gives_target_ofSettings_iff .standard h).2.2.mpr hbounds _ .recording _ _ _
    hstop _ rfl⟩

/-- With both bounds at `2 ^ 61` milliseconds, and with a lower bound of a nanosecond, a target that
is not zero is told as zero. -/
theorem not_gives_target_zero :
    (let s := Settings.standard.withRttBounds (.ofMillis (2 ^ 61)) (.ofMillis (2 ^ 61))
     let c := ofSettings s .dryRun () [.tick (.steady .start .start)]
     s.validate = .ok () ∧ c.controller.rttTarget.micros = 125 * 2 ^ 64 ∧
      c.lastCalls.map (fun x => (x.setpoint.arguments x.device)[7]?) =
        [some "0us", some "0us"] ∧
      ¬ ∀ x ∈ c.lastCalls, x.Gives c.controller.rttTarget) ∧
    (let s := Settings.standard.withRttBounds (.ofNanos 1) (.ofSecs 1)
     let c := ofSettings s .dryRun () [.record (.nanos 1), .tick (.steady .start .start)]
     s.validate = .ok () ∧ c.controller.rttTarget = .ofNanos 1 ∧
      c.lastCalls.map (fun x => (x.setpoint.arguments x.device)[7]?) =
        [some "0us", some "0us"] ∧
      ¬ ∀ x ∈ c.lastCalls, x.Gives c.controller.rttTarget) := by
  have hrecord : Action.stop ∉ [Action.record (.nanos 1)] := by simp
  refine ⟨⟨rfl, by decide +kernel, by decide +kernel, ?_⟩,
    ⟨rfl, by decide +kernel, by decide +kernel, ?_⟩⟩
  · intro hgives
    have htold := (gives_target_iff _ .dryRun () List.not_mem_nil rfl).mp hgives
    exact absurd htold (by decide +kernel)
  · intro hgives
    have htold := (gives_target_iff _ .dryRun () hrecord rfl).mp hgives
    exact absurd htold (by decide +kernel)

end Course
end AdaptiveShaper
