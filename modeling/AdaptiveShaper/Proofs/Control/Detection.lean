import AdaptiveShaper.Proofs.Control.Accounting
import AdaptiveShaper.Proofs.Rate.Run
import AdaptiveShaper.Proofs.Window.Retention

/-!
# What ticks make of the samples

The loop carries its window, the previous sample and the number of backoffs from tick to tick. All
three are functions of the samples drained so far: how they were spread over ticks leaves no trace.
-/

namespace AdaptiveShaper

/-! ## Increases -/

/-- How many samples are strictly greater than the one before them. -/
def increases (xs : List Span) : Nat := (xs.zip xs.tail).countP fun p => latencyIncreased p.1 p.2

theorem increases_cons_cons (x y : Span) (xs : List Span) :
    increases (x :: y :: xs) = increases (y :: xs) + if latencyIncreased x y then 1 else 0 :=
  List.countP_cons

theorem not_latencyIncreased_longest (x : Span) : latencyIncreased .longest x = false :=
  Detector.observe_idle x

theorem increases_concat (xs : List Span) (x : Span) :
    increases (xs ++ [x]) =
      increases xs + if latencyIncreased (xs.getLastD .longest) x then 1 else 0 := by
  induction xs with
  | nil =>
    rw [List.getLastD_nil, not_latencyIncreased_longest]
    rfl
  | cons y ys ih =>
    cases ys with
    | nil => exact increases_cons_cons y x []
    | cons z zs =>
      have hlast : (y :: z :: zs).getLastD Span.longest = (z :: zs).getLastD Span.longest := rfl
      rw [hlast, increases_cons_cons, List.cons_append, List.cons_append, increases_cons_cons,
        ← List.cons_append, ih]
      omega

/-! ## The loop -/

namespace ControlLoop

/-- What a loop with windows of `capacity` places remembers of the spans `xs`. -/
structure HasSeen (capacity : Nat) (xs : List Span) (l : ControlLoop) : Prop where
  totalBackoffs_eq : l.controller.totalBackoffs = increases xs
  previous_eq : l.detector.previous = xs.getLastD .longest
  capacity_eq : l.rttWindow.capacity = capacity
  samples_eq : l.rttWindow.samples = xs.rtake capacity

variable {l : ControlLoop} {n : Nat} {xs : List Span}

theorem HasSeen.start {s : Settings} (h : s.Valid) : (start s).HasSeen s.windowCapacity [] where
  totalBackoffs_eq := rfl
  previous_eq := rfl
  capacity_eq := Nat.max_eq_left h.windowCapacity_pos
  samples_eq := (List.rtake_nil _).symm

theorem totalBackoffs_take (l : ControlLoop) (now : Instant) (s : RttSample) :
    (l.take now s).1.controller.totalBackoffs = l.controller.totalBackoffs +
      if latencyIncreased l.detector.previous s.span then 1 else 0 := by
  cases h : latencyIncreased l.detector.previous s.span <;> simp [take, Detector.observe, h]

theorem rttWindow_take (l : ControlLoop) (now : Instant) (s : RttSample) :
    (l.take now s).1.rttWindow = (l.rttWindow.push s.span).1 := by
  cases h : latencyIncreased l.detector.previous s.span <;> simp [take, Detector.observe, h]

theorem detector_take (l : ControlLoop) (now : Instant) (s : RttSample) :
    (l.take now s).1.detector = ⟨s.span⟩ := by
  cases h : latencyIncreased l.detector.previous s.span <;> simp [take, Detector.observe, h]

theorem HasSeen.take (h : l.HasSeen n xs) (now : Instant) (s : RttSample) :
    (l.take now s).1.HasSeen n (xs ++ [s.span]) := by
  obtain ⟨hbackoffs, hprevious, rfl, hsamples⟩ := h
  constructor
  · rw [totalBackoffs_take, hbackoffs, hprevious, increases_concat]
  · rw [detector_take, List.getLastD_concat]
  · rw [rttWindow_take, SlidingWindow.capacity_push]
  · rw [rttWindow_take, SlidingWindow.samples_push_eq_rtake hsamples]

theorem HasSeen.takeAll (h : l.HasSeen n xs) (reading : Nat → Instant) (i : Nat)
    (samples : List RttSample) :
    (l.takeAll reading i samples).1.HasSeen n (xs ++ samples.map RttSample.span) := by
  induction samples generalizing l xs i with
  | nil =>
    rw [List.map_nil, List.append_nil]
    exact h
  | cons s rest ih =>
    rw [List.map_cons, List.append_cons]
    exact ih (h.take (reading i) s) (i + 1)

theorem HasSeen.tick (h : l.HasSeen n xs) (clock : TickClock) (samples : List RttSample)
    (replies : Both Reply) :
    (l.tick clock samples replies).1.HasSeen n (xs ++ samples.map RttSample.span) := by
  obtain ⟨hbackoffs, hprevious, hcapacity, hsamples⟩ := h.takeAll clock.sample 0 samples
  -- the rate step counts no backoff, and enforcing touches none of the three
  refine ⟨?_, hprevious, hcapacity, hsamples⟩
  rw [← hbackoffs]
  exact RateController.totalBackoffs_tick _ _ _

end ControlLoop

/-! ## Courses -/

namespace Course

variable {σ : Type}

/-- The spans that were taken in, in order. -/
def spans (c : Course σ) : List Span := c.accepted.map RttSample.span

theorem hasSeen_step {c : Course σ} {n : Nat}
    (h : c.service.loop.HasSeen n (c.drained.map RttSample.span)) (actuator : Actuator σ)
    (a : Action) : (c.step actuator a).service.loop.HasSeen n
      ((c.step actuator a).drained.map RttSample.span) := by
  cases a with
  | record i => exact h
  | tick clock =>
    simp only [step]
    split
    · have htick := h.tick clock c.service.queue.waiting
        (actuator.applyBoth c.port (c.service.regulate clock).1.loop.calls).2
      rw [← List.map_append] at htick
      exact htick
    · exact h
  | stop => exact h

theorem hasSeen_ofSettings {s : Settings} (h : s.Valid) (actuator : Actuator σ) (port : σ)
    (actions : List Action) :
    (ofSettings s actuator port actions).service.loop.HasSeen s.windowCapacity
      ((ofSettings s actuator port actions).drained.map RttSample.span) := by
  induction actions using List.reverseRecOn with
  | nil => exact ControlLoop.HasSeen.start h
  | append_singleton actions a ih =>
    rw [ofSettings, run_concat]
    exact hasSeen_step ih actuator a

/-- A course without a stop that has drained its queue remembers all samples that it took in. -/
theorem hasSeen_of_drained {s : Settings} (h : s.Valid) {actuator : Actuator σ} {port : σ}
    {actions : List Action} (hstop : Action.stop ∉ actions)
    (hempty : (ofSettings s actuator port actions).service.queue.waiting = []) :
    (ofSettings s actuator port actions).service.loop.HasSeen s.windowCapacity
      (ofSettings s actuator port actions).spans := by
  have hrunning := (isRunning_ofSettings s actuator port actions).mpr hstop
  have haccepted := (balanced_ofSettings s actuator port actions).accepted_eq hrunning
  rw [hempty, List.append_nil] at haccepted
  rw [spans, haccepted]
  exact hasSeen_ofSettings h actuator port actions

/-- After any tick of a course from accepted settings, the backoffs are the strict increases among
all samples taken in, the detector holds the last of them, and the window the last ones that it has
room for. So two courses that took the same spans in and have drained them agree on all three,
however the spans were spread over ticks and whatever the actuators answered. -/
theorem detection_ofSettings (s : Settings) (h : s.validate = .ok ()) (actuator : Actuator σ)
    (port : σ) (actions : List Action) (hstop : Action.stop ∉ actions) :
    Service.new s = .ok (.start s) ∧
      (∀ clock c, c = ofSettings s actuator port (actions ++ [.tick clock]) →
        c.service.loop.controller.totalBackoffs = increases c.spans ∧
        c.service.loop.detector.previous = c.spans.getLastD .longest ∧
        c.service.loop.rttWindow.samples = c.spans.rtake (min c.spans.length s.windowCapacity)) ∧
      (∀ (τ : Type) (other : Actuator τ) (otherPort : τ) (others : List Action),
        Action.stop ∉ others →
        ∀ c d, c = ofSettings s actuator port actions → d = ofSettings s other otherPort others →
        c.service.queue.waiting = [] → d.service.queue.waiting = [] → c.spans = d.spans →
        c.service.loop.controller.totalBackoffs = d.service.loop.controller.totalBackoffs ∧
        c.service.loop.detector = d.service.loop.detector ∧
        c.service.loop.rttWindow.samples = d.service.loop.rttWindow.samples) := by
  have hs := s.validate_eq_ok_iff.mp h
  refine ⟨Service.new_eq_ok h, ?_, ?_⟩
  · rintro clock c rfl
    have hticked : Action.stop ∉ actions ++ [.tick clock] := by simpa using hstop
    have hdrains := drains_ofSettings s actuator port hstop clock
    have hseen := hasSeen_of_drained hs hticked hdrains.waiting_eq
    refine ⟨hseen.totalBackoffs_eq, hseen.previous_eq, ?_⟩
    rw [hseen.samples_eq, List.rtake, List.rtake]
    congr 1
    omega
  · rintro τ other otherPort others hothers c d rfl rfl hc hd hspans
    have hleft := hasSeen_of_drained hs hstop hc
    have hright := hasSeen_of_drained hs hothers hd
    rw [← hspans] at hright
    refine ⟨?_, ?_, ?_⟩
    · rw [hleft.totalBackoffs_eq, hright.totalBackoffs_eq]
    · have hprevious := hleft.previous_eq.trans hright.previous_eq.symm
      exact congrArg Detector.mk hprevious
    · rw [hleft.samples_eq, hright.samples_eq]

/-- Two samples in one tick, the second one greater. -/
theorem detection_ofSettings_standard :
    Settings.standard.validate = .ok () ∧
      Action.stop ∉ [.record (.nanos 5), .record (.text "9ns")] ∧
      (ofSettings .standard .dryRun () ([.record (.nanos 5), .record (.text "9ns")] ++
        [.tick (.steady .start .start)])).service.loop.controller.totalBackoffs = 1 := by
  have h : Settings.standard.validate = .ok () := rfl
  have hstop : Action.stop ∉ [.record (.nanos 5), .record (.text "9ns")] := by simp
  obtain ⟨_, hticked, _⟩ := detection_ofSettings .standard h .dryRun () _ hstop
  refine ⟨h, hstop, ?_⟩
  rw [(hticked (.steady .start .start) _ rfl).1]
  rfl

end Course
end AdaptiveShaper
