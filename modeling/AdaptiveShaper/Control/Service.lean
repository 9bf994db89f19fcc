import AdaptiveShaper.Ingest.Queue
import AdaptiveShaper.Settings.Basic
import AdaptiveShaper.Shaper.Enforcement
import AdaptiveShaper.Status.Snapshot
import AdaptiveShaper.Time.Span
import AdaptiveShaper.Window.Basic

/-!
# The service

Samples come into the queue at any time. A tick drains it, cuts the rates at each latency increase
and makes one step of the rate controller (`regulate`); then the setpoints are enforced, each answer
is noted with `observe`, and the tick is closed and its snapshot published. Clock readings and
answers are inputs, so that a tick is a function of what it is given.
-/

namespace AdaptiveShaper

/-! ## Latency increases -/

/-- Whether `newest` is a latency increase over `previous`. -/
def latencyIncreased (previous newest : Span) : Bool := previous < newest

/-- The previous sample that the next one is compared with. -/
structure Detector where
  previous : Span
  deriving DecidableEq

namespace Detector

def idle : Detector := ⟨Span.longest⟩

/-- Whether a sample is an increase, and the detector for the next sample. -/
def observe (d : Detector) (newest : Span) : Detector × Bool :=
  (⟨newest⟩, latencyIncreased d.previous newest)

theorem observe_idle (s : Span) : (idle.observe s).2 = false := by
  have h : ¬ Span.maxNanos < s.nanos := Nat.not_lt.mpr s.nanos_le
  simpa [observe, latencyIncreased, Span.lt_iff, idle] using h

end Detector

/-! ## The loop -/

/-- What a control loop tells about its work. -/
inductive LoopEvent where
  | started (interfaces : Both String) (tickInterval : Span)
  | increased (sample : RttSample)
  | rate (event : RateEvent Float)
  | enforcing (event : EnforceEvent)
  | ticked (tick drained : Nat) (elapsed : Span) (failures : Nat)
  | stopped (ticks : Nat)

def LoopEvent.record : LoopEvent → Log.Record
  | .started interfaces interval =>
    ⟨.info, "cakerate::service", "Control loop started",
      [("uplink", .string interfaces.uplink), ("downlink", .string interfaces.downlink),
        ("tick_ms", .nat (interval.millis % 0x1_0000_0000_0000_0000))]⟩
  | .increased s =>
    ⟨.debug, "cakerate::service", "Latency increase",
      [("seq", .nat s.seq), ("rtt_us", .nat (s.span.micros % 0x1_0000_0000_0000_0000))]⟩
  | .rate e => e.record
  | .enforcing e => e.record
  | .ticked tick drained elapsed failures =>
    ⟨.trace, "cakerate::service", "Control loop tick",
      [("tick", .nat tick), ("drained", .nat drained),
        ("apply_us", .nat (elapsed.micros % 0x1_0000_0000_0000_0000)), ("failures", .nat failures)]⟩
  | .stopped ticks =>
    ⟨.info, "cakerate::service", "Control loop stopped", [("ticks", .nat ticks)]⟩

/-- The state of a control loop between ticks. -/
structure ControlLoop where
  rttWindow : SlidingWindow Span
  rateWindows : Both (SlidingWindow Float)
  applyWindow : SlidingWindow Span
  /-- How long the most recent tick took to enforce its setpoints. -/
  lastApply : Span
  detector : Detector
  controller : RateController Float
  adapter : Adapter
  tickInterval : Span
  ticks : Nat

/-- The clock readings of one tick. -/
structure TickClock where
  /-- The reading at which the `i`-th sample of the tick is handled. -/
  sample : (i : Nat) → Instant
  /-- The reading of the rate controller's step. -/
  control : Instant
  applyStart : Instant
  applyEnd : Instant
  publish : Instant

/-- The clock that shows one reading, and another once the setpoints are enforced. -/
def TickClock.steady (before after : Instant) : TickClock :=
  ⟨fun _ => before, before, before, after, after⟩

def TickClock.applyTime (c : TickClock) : Span := c.applyEnd.since c.applyStart

namespace ControlLoop

/-- The loop for some settings, or what is wrong with them. -/
def new (s : Settings) : Except SettingsFault ControlLoop := do
  s.validate
  let controller ← (RateController.new s.rate).mapError .rate
  return {
    rttWindow := .empty s.windowCapacity
    rateWindows := .same (.empty s.windowCapacity)
    applyWindow := .empty s.windowCapacity
    lastApply := .zero
    detector := .idle
    controller := controller
    adapter := .new s.interfaces s.failureThreshold
    tickInterval := s.tickInterval
    ticks := 0 }

/-- Takes one sample at the clock reading `now`. -/
def take (l : ControlLoop) (now : Instant) (s : RttSample) : ControlLoop × List LoopEvent :=
  let (detector, increased) := l.detector.observe s.span
  let seen := { l with rttWindow := (l.rttWindow.push s.span).1, detector := detector }
  if increased then
    let (controller, event) := l.controller.signal now
    ({ seen with controller := controller }, [.increased s, .rate event])
  else (seen, [])

/-- Takes samples in order, the first of them at the reading `reading i`. -/
def takeAll (l : ControlLoop) (reading : Nat → Instant) (i : Nat) :
    List RttSample → ControlLoop × List LoopEvent
  | [] => (l, [])
  | s :: rest =>
    let (l, events) := l.take (reading i) s
    let (l, later) := l.takeAll reading (i + 1) rest
    (l, events ++ later)

/-- The mean of the round-trip times in the window, if there are any. -/
def rttMean? (l : ControlLoop) : Option Span := l.rttWindow.meanSpan?.toOption

def pushRates (l : ControlLoop) (setpoints : Both (Setpoint Float)) : ControlLoop :=
  { l with rateWindows := .ofFn fun d =>
      ((l.rateWindows.get d).push (setpoints.get d).rateKbit).1 }

/-- One step of the rate controller at `now`. -/
def control (l : ControlLoop) (now : Instant) : ControlLoop × List LoopEvent :=
  let (controller, events) := l.controller.tick now l.rttMean?
  ({ l with controller := controller }.pushRates controller.setpoints, events.map .rate)

/-- The setpoints that are to be enforced, the uplink's first. -/
def setpoints (l : ControlLoop) : Both (Setpoint Float) := l.controller.setpoints

/-- The first half of a tick: everything up to the setpoints. -/
def regulate (l : ControlLoop) (clock : TickClock) (samples : List RttSample) :
    ControlLoop × List LoopEvent :=
  let (l, taken) := l.takeAll clock.sample 0 samples
  let (l, controlled) := l.control clock.control
  (l, taken ++ controlled)

def observe (l : ControlLoop) (s : Setpoint Float) (reply : Reply) :
    ControlLoop × List LoopEvent :=
  let (adapter, events) := l.adapter.note s reply
  ({ l with adapter := adapter }, events.map .enforcing)

/-- Closes a tick that took `drained` samples and enforced its setpoints within `elapsed`. -/
def conclude (l : ControlLoop) (drained : Nat) (elapsed : Span) (failures : Nat) :
    ControlLoop × List LoopEvent :=
  ({ l with
      lastApply := elapsed
      applyWindow := (l.applyWindow.push elapsed).1
      ticks := l.ticks + 1 },
    [.ticked (l.ticks + 1) drained elapsed failures])

/-- The second half of a tick: the answers are noted, the uplink's first, and the tick is closed. -/
def settle (l : ControlLoop) (drained : Nat) (elapsed : Span) (replies : Both Reply) :
    ControlLoop × List LoopEvent :=
  let setpoints := l.setpoints
  let (l, up) := l.observe setpoints.uplink replies.uplink
  let (l, down) := l.observe setpoints.downlink replies.downlink
  let failures := replies.downlink.count (replies.uplink.count 0)
  let (l, closed) := l.conclude drained elapsed failures
  (l, up ++ down ++ closed)

/-- A whole tick with the clock readings it meets and the answers its calls get. -/
def tick (l : ControlLoop) (clock : TickClock) (samples : List RttSample) (replies : Both Reply) :
    ControlLoop × List LoopEvent :=
  let (l, regulated) := l.regulate clock samples
  let (l, settled) := l.settle samples.length clock.applyTime replies
  (l, regulated ++ settled)

def calls (l : ControlLoop) : Both Call := l.setpoints.map l.adapter.call

/-- The figures to publish at `now`. -/
def snapshot (l : ControlLoop) (q : IngestQueue) (now : Instant) : Snapshot where
  rttAverage := l.rttWindow.meanSpan
  rateAverage := l.rateWindows.map SlidingWindow.mean
  rateMedian := l.rateWindows.map fun w => w.median.toFloat
  sampleCount := l.rttWindow.length
  windowCapacity := l.rttWindow.capacity
  applyLast := l.lastApply
  applyAverage := l.applyWindow.meanSpan
  controller := some (l.controller.stats now)
  health := l.adapter.health
  ingestionErrors := q.errors
  droppedSamples := q.dropped
  ticks := l.ticks

end ControlLoop

/-! ## The service -/

/-- A control loop with its queue and the snapshot it published last. -/
structure Service where
  queue : IngestQueue
  loop : ControlLoop
  published : Snapshot

namespace Service

/-- The service for some settings, or what is wrong with them. Queue and windows can have any
capacity here, even one for which no memory would be found, and no counter ever overflows. -/
def new (s : Settings) : Except SettingsFault Service := do
  let loop ← ControlLoop.new s
  return ⟨.empty s.ingestQueueCapacity, loop, .empty s.windowCapacity⟩

def isRunning (s : Service) : Bool := s.queue.attached

/-- The first half of a tick: the queue is drained and the controller makes its step. Also gives the
number of samples drained. -/
def regulate (s : Service) (clock : TickClock) : Service × Nat × List LoopEvent :=
  let (queue, samples) := s.queue.drain
  let (loop, events) := s.loop.regulate clock samples
  ({ s with queue := queue, loop := loop }, samples.length, events)

/-- Publishes the figures of `now`. -/
def publish (s : Service) (now : Instant) : Service :=
  { s with published := s.loop.snapshot s.queue now }

/-- The second half of a tick: the answers are noted, the tick is closed and its figures are
published. -/
def settle (s : Service) (drained : Nat) (elapsed : Span) (publishedAt : Instant)
    (replies : Both Reply) : Service × List LoopEvent :=
  let (loop, events) := s.loop.settle drained elapsed replies
  ({ s with loop := loop }.publish publishedAt, events)

/-- A whole tick with the clock readings it meets and the answers its calls get. -/
def tick (s : Service) (clock : TickClock) (replies : Both Reply) : Service × List LoopEvent :=
  let (s, drained, regulated) := s.regulate clock
  let (s, settled) := s.settle drained clock.applyTime clock.publish replies
  (s, regulated ++ settled)

def stop (s : Service) : Service := { s with queue := s.queue.detach }

end Service

def Actuator.applyBoth {σ : Type} (actuator : Actuator σ) (state : σ) (calls : Both Call) :
    σ × Both Reply :=
  let (state, up) := actuator.apply state calls.uplink
  let (state, down) := actuator.apply state calls.downlink
  (state, ⟨up, down⟩)

/-- A tick through an actuator that is begun at `now`, with the state of the actuator and the clock
reading after it; the clock moves only by what the calls cost. -/
def Service.tickThrough {σ : Type} (actuator : Actuator σ) (s : Service) (state : σ)
    (now : Instant) : Service × σ × Instant × List LoopEvent :=
  let (s, drained, regulated) := s.regulate (.steady now now)
  let (state, replies) := actuator.applyBoth state s.loop.calls
  let after := now.advance (replies.uplink.cost + replies.downlink.cost)
  let (s, settled) := s.settle drained (after.since now) after replies
  (s, state, after, regulated ++ settled)

end AdaptiveShaper
