import AdaptiveShaper.Proofs.Control.Course

/-!
# Failures stay out of control

The answers of an actuator change the health of the directions and what is published of it, and
nothing else: with the health forgotten, a tick gives the same service for any two replies.
-/

namespace AdaptiveShaper

/-! ## Forgetting the health -/

/-- The adapter as if nothing had been enforced with it. -/
def Adapter.forget (a : Adapter) : Adapter := { a with health := Both.same Health.fresh }

def Snapshot.forget (s : Snapshot) : Snapshot := { s with health := Both.same Health.fresh }

def ControlLoop.forget (l : ControlLoop) : ControlLoop := { l with adapter := l.adapter.forget }

def Service.forget (s : Service) : Service :=
  { s with loop := s.loop.forget, published := s.published.forget }

namespace ControlLoop

theorem take_forget (l : ControlLoop) (now : Instant) (s : RttSample) :
    (l.forget.take now s).1 = (l.take now s).1.forget := by
  have hdetector : l.forget.detector = l.detector := rfl
  cases h : latencyIncreased l.detector.previous s.span <;>
    simp only [take, Detector.observe, hdetector, h] <;> rfl

theorem takeAll_forget (l : ControlLoop) (reading : Nat → Instant) (i : Nat)
    (samples : List RttSample) :
    (l.forget.takeAll reading i samples).1 = (l.takeAll reading i samples).1.forget := by
  induction samples generalizing l i with
  | nil => rfl
  | cons s rest ih =>
    have htake := l.take_forget (reading i) s
    have hrest := ih (l.take (reading i) s).1 (i + 1)
    rw [← htake] at hrest
    exact hrest

theorem regulate_forget (l : ControlLoop) (clock : TickClock) (samples : List RttSample) :
    (l.forget.regulate clock samples).1 = (l.regulate clock samples).1.forget := by
  change ((l.forget.takeAll clock.sample 0 samples).1.control clock.control).1 = _
  rw [takeAll_forget]
  rfl

theorem calls_forget (l : ControlLoop) : l.forget.calls = l.calls := rfl

end ControlLoop

namespace Service

theorem regulate_forget (s : Service) (clock : TickClock) :
    (s.forget.regulate clock).1 = (s.regulate clock).1.forget := by
  have hloop := s.loop.regulate_forget clock s.queue.waiting
  change (⟨s.queue.drain.1, (s.loop.forget.regulate clock s.queue.waiting).1,
    s.published.forget⟩ : Service) = _
  rw [hloop]
  rfl

theorem calls_regulate_forget (s : Service) (clock : TickClock) :
    (s.forget.regulate clock).1.loop.calls = (s.regulate clock).1.loop.calls := by
  rw [regulate_forget]
  exact ControlLoop.calls_forget _

/-- Replies only change the health. -/
theorem forget_tick (s : Service) (clock : TickClock) (r t : Both Reply) :
    (s.tick clock r).1.forget = (s.forget.tick clock t).1.forget := by
  have hsettle : ∀ u : Service, (u.settle s.queue.waiting.length clock.applyTime clock.publish
      r).1.forget = (u.forget.settle s.queue.waiting.length clock.applyTime clock.publish
      t).1.forget := fun _ => rfl
  have htick := hsettle (s.regulate clock).1
  rw [← regulate_forget] at htick
  exact htick

end Service

namespace Course

variable {σ τ : Type}

/-- What of two courses agrees if only the replies differ. -/
structure Alike (c : Course σ) (d : Course τ) : Prop where
  service : c.service.forget = d.service.forget
  answers : c.answers = d.answers
  drained : c.drained = d.drained
  calls : c.exchanges.map Exchange.call = d.exchanges.map Exchange.call

variable {c : Course σ} {d : Course τ}

theorem Alike.queue (h : c.Alike d) : c.service.queue = d.service.queue := by
  have hqueue := congrArg Service.queue h.service
  exact hqueue

theorem Alike.record (h : c.Alike d) (i : SampleInput) : (c.record i).Alike (d.record i) := by
  have hqueue := h.queue
  constructor
  · change { c.service.forget with queue := (c.service.queue.record i).queue } =
      { d.service.forget with queue := (d.service.queue.record i).queue }
    rw [h.service, hqueue]
  · simp only [Course.record, hqueue, h.answers]
  · exact h.drained
  · exact h.calls

theorem Alike.tick (h : c.Alike d) (actuator : Actuator σ) (other : Actuator τ)
    (clock : TickClock) : (c.tick actuator clock).Alike (d.tick other clock) := by
  have hcalls : (c.service.regulate clock).1.loop.calls =
      (d.service.regulate clock).1.loop.calls := by
    rw [← Service.calls_regulate_forget, h.service, Service.calls_regulate_forget]
  constructor
  · -- both services are what any replies give on the common service without health
    let replies := (other.applyBoth d.port (d.service.regulate clock).1.loop.calls).2
    change (c.service.tick clock _).1.forget = (d.service.tick clock replies).1.forget
    rw [c.service.forget_tick clock _ replies, d.service.forget_tick clock _ replies, h.service]
  · exact h.answers
  · have hqueue := h.queue
    simp only [Course.tick, h.drained, hqueue]
  · simp only [Course.tick, List.map_append, h.calls, List.map_cons, List.map_nil, hcalls]

theorem Alike.stop (h : c.Alike d) : c.stop.Alike d.stop := by
  refine ⟨?_, h.answers, h.drained, h.calls⟩
  change { c.service.forget with queue := c.service.queue.detach } =
    { d.service.forget with queue := d.service.queue.detach }
  rw [h.service, h.queue]

theorem Alike.step (h : c.Alike d) (actuator : Actuator σ) (other : Actuator τ) (a : Action) :
    (c.step actuator a).Alike (d.step other a) := by
  cases a with
  | record i => exact h.record i
  | tick clock =>
    have hrunning : c.service.isRunning = d.service.isRunning :=
      congrArg IngestQueue.attached h.queue
    simp only [Course.step, hrunning]
    split
    · exact h.tick actuator other clock
    · exact h
  | stop => exact h.stop

theorem Alike.run (h : c.Alike d) (actuator : Actuator σ) (other : Actuator τ)
    (actions : List Action) : (c.run actuator actions).Alike (d.run other actions) := by
  induction actions generalizing c d with
  | nil => exact h
  | cons a actions ih => exact ih (h.step actuator other a)

/-- Two courses from the same accepted settings, with the same samples, ticks and clock readings but
actuators that may answer differently: they make the same calls, their control loops agree, and
nothing but the health of the directions tells their services apart. -/
theorem isolation_ofSettings (s : Settings) (h : s.validate = .ok ()) (actuator : Actuator σ)
    (other : Actuator τ) (port : σ) (otherPort : τ) (actions : List Action) :
    Service.new s = .ok (.start s) ∧
      ∀ c d, c = ofSettings s actuator port actions → d = ofSettings s other otherPort actions →
        c.exchanges.map Exchange.call = d.exchanges.map Exchange.call ∧
        c.service.loop.controller = d.service.loop.controller ∧
        c.service.loop.rttWindow = d.service.loop.rttWindow ∧
        c.service.loop.rateWindows = d.service.loop.rateWindows ∧
        c.service.loop.detector = d.service.loop.detector ∧
        c.service.loop.ticks = d.service.loop.ticks ∧
        c.service.queue = d.service.queue ∧
        c.answers = d.answers ∧
        c.drained = d.drained ∧
        c.service.forget = d.service.forget := by
  refine ⟨Service.new_eq_ok h, ?_⟩
  rintro c d rfl rfl
  have hstart : (begin (.start s) port).Alike (begin (.start s) otherPort) := ⟨rfl, rfl, rfl, rfl⟩
  have halike := hstart.run actuator other actions
  have hloop := congrArg Service.loop halike.service
  have hcontroller := congrArg ControlLoop.controller hloop
  have hrtt := congrArg ControlLoop.rttWindow hloop
  have hrates := congrArg ControlLoop.rateWindows hloop
  have hdetector := congrArg ControlLoop.detector hloop
  have hticks := congrArg ControlLoop.ticks hloop
  exact ⟨halike.calls, hcontroller, hrtt, hrates, hdetector, hticks, halike.queue, halike.answers,
    halike.drained, halike.service⟩

/-- One actuator succeeds always, the other never. -/
theorem isolation_ofSettings_standard :
    Settings.standard.validate = .ok () ∧
      (ofSettings .standard .dryRun () [.tick (.steady .start .start)]).exchanges.map
          Exchange.call =
        (ofSettings .standard .recording ⟨[], .same true⟩
          [.tick (.steady .start .start)]).exchanges.map Exchange.call := by
  have h : Settings.standard.validate = .ok () := rfl
  exact ⟨h, ((isolation_ofSettings .standard h .dryRun .recording () ⟨[], .same true⟩ _).2 _ _ rfl
    rfl).1⟩

end Course
end AdaptiveShaper
