import AdaptiveShaper.Control.Service
import AdaptiveShaper.Proofs.Ingest.Input
import AdaptiveShaper.Proofs.Settings.Checks
import Mathlib.Data.List.Induction

/-!
# Courses of a service

A course is what happens to a service from its start on: samples are handed in, ticks are made at
any clock readings, and the loop may be stopped. The calls of a tick are carried out by an actuator,
which may answer as it likes. Along with the service a course keeps what an observer sees.
-/

namespace AdaptiveShaper

/-! ## Starting -/

def ControlLoop.start (s : Settings) : ControlLoop where
  rttWindow := .empty s.windowCapacity
  rateWindows := .same (.empty s.windowCapacity)
  applyWindow := .empty s.windowCapacity
  lastApply := .zero
  detector := .idle
  controller := .start s.rate
  adapter := .new s.interfaces s.failureThreshold
  tickInterval := s.tickInterval
  ticks := 0

def Service.start (s : Settings) : Service :=
  ⟨.empty s.ingestQueueCapacity, .start s, .empty s.windowCapacity⟩

theorem ControlLoop.new_eq_ok {s : Settings} (h : s.validate = .ok ()) :
    ControlLoop.new s = .ok (.start s) := by
  have hrate : s.rate.validate = .ok () :=
    s.rate.validate_eq_ok_iff.mpr (s.validate_eq_ok_iff.mp h).rate
  rw [ControlLoop.new, h, RateController.new, hrate]
  rfl

theorem Service.new_eq_ok {s : Settings} (h : s.validate = .ok ()) :
    Service.new s = .ok (.start s) := by
  rw [Service.new, ControlLoop.new_eq_ok h]
  rfl

/-! ## What a tick leaves alone -/

namespace ControlLoop

/-- Taking a sample changes the window, the detector and the controller, and nothing else. -/
theorem take_frame (l : ControlLoop) (now : Instant) (x : RttSample) :
    { (l.take now x).1 with
      rttWindow := l.rttWindow, detector := l.detector, controller := l.controller } = l := by
  unfold ControlLoop.take
  simp only
  split <;> rfl

theorem takeAll_frame (l : ControlLoop) (reading : Nat → Instant) (i : Nat)
    (samples : List RttSample) :
    { (l.takeAll reading i samples).1 with
      rttWindow := l.rttWindow, detector := l.detector, controller := l.controller } = l := by
  induction samples generalizing l i with
  | nil => rfl
  | cons x samples ih =>
    have hrest := congrArg (fun k : ControlLoop => { k with
      rttWindow := l.rttWindow, detector := l.detector, controller := l.controller })
      (ih (l.take (reading i) x).1 (i + 1))
    exact hrest.trans (l.take_frame (reading i) x)

theorem rateWindows_takeAll (l : ControlLoop) (reading : Nat → Instant) (i : Nat)
    (samples : List RttSample) : (l.takeAll reading i samples).1.rateWindows = l.rateWindows := by
  have hframe := congrArg ControlLoop.rateWindows (l.takeAll_frame reading i samples)
  exact hframe

theorem ticks_regulate (l : ControlLoop) (clock : TickClock) (samples : List RttSample) :
    (l.regulate clock samples).1.ticks = l.ticks := by
  have hframe := congrArg ControlLoop.ticks (l.takeAll_frame clock.sample 0 samples)
  exact hframe

theorem tickInterval_regulate (l : ControlLoop) (clock : TickClock) (samples : List RttSample) :
    (l.regulate clock samples).1.tickInterval = l.tickInterval := by
  have hframe := congrArg ControlLoop.tickInterval (l.takeAll_frame clock.sample 0 samples)
  exact hframe

theorem adapter_regulate (l : ControlLoop) (clock : TickClock) (samples : List RttSample) :
    (l.regulate clock samples).1.adapter = l.adapter := by
  have hframe := congrArg ControlLoop.adapter (l.takeAll_frame clock.sample 0 samples)
  exact hframe

theorem ticks_tick (l : ControlLoop) (clock : TickClock) (samples : List RttSample)
    (replies : Both Reply) : (l.tick clock samples replies).1.ticks = l.ticks + 1 :=
  congrArg (· + 1) (l.ticks_regulate clock samples)

/-- Each direction is enforced with its own setpoint and answer. -/
theorem health_settle (l : ControlLoop) (drained : Nat) (elapsed : Span) (r : Both Reply)
    (d : Direction) : (l.settle drained elapsed r).1.adapter.health.get d =
      ((l.adapter.health.get d).observe l.adapter.threshold (l.setpoints.get d)
        (r.get d).outcome).1 := by
  cases d <;> rfl

end ControlLoop

/-! ## Steps -/

inductive Action where
  | record (input : SampleInput)
  | tick (clock : TickClock)
  | stop

structure Answer where
  input : SampleInput
  /-- The sequence number that the queue would give next. -/
  number : Nat
  outcome : Except SampleError Unit

/-- The sample that was taken in, if it was. -/
def Answer.sample? (a : Answer) : Option RttSample :=
  match a.input.read, a.outcome with
  | .ok d, .ok () => some ⟨d, a.number⟩
  | _, _ => none

/-- A service and its actuator with what an observer has seen of them. -/
structure Course (σ : Type) where
  service : Service
  port : σ
  answers : List Answer
  /-- The samples that ticks have drained, in order. -/
  drained : List RttSample
  exchanges : List Exchange

namespace Course

variable {σ : Type}

def begin (service : Service) (port : σ) : Course σ := ⟨service, port, [], [], []⟩

def record (c : Course σ) (input : SampleInput) : Course σ :=
  let q := c.service.queue
  let reply := q.record input
  { c with
    service := { c.service with queue := reply.queue }
    answers := c.answers ++ [⟨input, q.nextSeq, reply.outcome⟩] }

/-- A tick is made, and its calls are carried out one after the other. -/
def tick (actuator : Actuator σ) (c : Course σ) (clock : TickClock) : Course σ :=
  let calls := (c.service.regulate clock).1.loop.calls
  let (port, replies) := actuator.applyBoth c.port calls
  { c with
    service := (c.service.tick clock replies).1
    port := port
    drained := c.drained ++ c.service.queue.drain.2
    exchanges := c.exchanges ++
      [⟨calls.uplink, replies.uplink⟩, ⟨calls.downlink, replies.downlink⟩] }

def stop (c : Course σ) : Course σ := { c with service := c.service.stop }

/-- One thing happens. A service without its loop makes no ticks. -/
def step (actuator : Actuator σ) (c : Course σ) : Action → Course σ
  | .record input => c.record input
  | .tick clock => if c.service.isRunning then c.tick actuator clock else c
  | .stop => c.stop

def run (actuator : Actuator σ) (c : Course σ) (actions : List Action) : Course σ :=
  actions.foldl (step actuator) c

theorem run_append (actuator : Actuator σ) (c : Course σ) (actions later : List Action) :
    c.run actuator (actions ++ later) = (c.run actuator actions).run actuator later :=
  List.foldl_append

theorem run_concat (actuator : Actuator σ) (c : Course σ) (actions : List Action) (a : Action) :
    c.run actuator (actions ++ [a]) = (c.run actuator actions).step actuator a :=
  c.run_append actuator actions [a]

theorem run_induction {P : Course σ → Prop} {actuator : Actuator σ} {c : Course σ} (h : P c)
    (hrecord : ∀ (c : Course σ) (i : SampleInput), P c → P (c.record i))
    (htick : ∀ (c : Course σ) (clock : TickClock), P c → P (c.tick actuator clock))
    (hstop : ∀ c : Course σ, P c → P c.stop) (actions : List Action) :
    P (c.run actuator actions) := by
  induction actions generalizing c with
  | nil => exact h
  | cons a actions ih =>
    refine ih ?_
    cases a with
    | record i => exact hrecord c i h
    | tick clock =>
      simp only [step]
      split
      · exact htick c clock h
      · exact h
    | stop => exact hstop c h

def accepted (c : Course σ) : List RttSample := c.answers.filterMap Answer.sample?

/-- The course of a service from its start with accepted settings. -/
def ofSettings (s : Settings) (actuator : Actuator σ) (port : σ) (actions : List Action) :
    Course σ :=
  (begin (.start s) port).run actuator actions

/-- A tick through an actuator is a tick of the course, at the readings of a clock that moves only
by what the calls cost. -/
theorem tick_tickThrough {actuator : Actuator σ} {c : Course σ} {now after : Instant}
    {service : Service} {port : σ} {events : List LoopEvent}
    (h : c.service.tickThrough actuator c.port now = (service, port, after, events)) :
    (c.tick actuator (.steady now after)).service = service ∧
      (c.tick actuator (.steady now after)).port = port := by
  simp only [Service.tickThrough, Prod.mk.injEq] at h
  obtain ⟨rfl, rfl, rfl, rfl⟩ := h
  exact ⟨rfl, rfl⟩

/-! ## Whether the loop is there -/

@[simp] theorem isRunning_tick (actuator : Actuator σ) (c : Course σ) (clock : TickClock) :
    (c.tick actuator clock).service.isRunning = c.service.isRunning := rfl

@[simp] theorem isRunning_record (c : Course σ) (i : SampleInput) :
    (c.record i).service.isRunning = c.service.isRunning :=
  c.service.queue.attached_record i

theorem isRunning_step (actuator : Actuator σ) (c : Course σ) (a : Action) :
    (c.step actuator a).service.isRunning = true ↔ c.service.isRunning = true ∧ a ≠ .stop := by
  cases a with
  | record input => simp [step]
  | tick clock =>
    simp only [step]
    split
    · simp
    · next h => simp [h]
  | stop => simp [step, stop, Service.stop, Service.isRunning, IngestQueue.detach]

theorem isRunning_run (actuator : Actuator σ) (c : Course σ) (actions : List Action)
    (h : c.service.isRunning = true) :
    (c.run actuator actions).service.isRunning = true ↔ Action.stop ∉ actions := by
  induction actions using List.reverseRecOn with
  | nil => exact ⟨fun _ => List.not_mem_nil, fun _ => h⟩
  | append_singleton actions a ih =>
    rw [run_concat, isRunning_step, ih, List.mem_append, not_or, List.mem_singleton, ne_comm]

theorem isRunning_ofSettings (s : Settings) (actuator : Actuator σ) (port : σ)
    (actions : List Action) :
    (ofSettings s actuator port actions).service.isRunning = true ↔ Action.stop ∉ actions :=
  isRunning_run actuator (begin (.start s) port) actions rfl

theorem ofSettings_concat_tick (s : Settings) (actuator : Actuator σ) (port : σ)
    {actions : List Action} (hstop : Action.stop ∉ actions) (clock : TickClock) :
    ofSettings s actuator port (actions ++ [.tick clock]) =
      (ofSettings s actuator port actions).tick actuator clock := by
  have hrunning := (isRunning_ofSettings s actuator port actions).mpr hstop
  rw [ofSettings, run_concat]
  exact if_pos hrunning

end Course
end AdaptiveShaper
