import AdaptiveShaper.Proofs.Control.Detection
import AdaptiveShaper.Proofs.Control.Isolation

/-!
# Only the order of round-trip times matters

Whether a sample is an increase depends on how it compares with the sample before it; the mean of
the samples ends in the target, which no step reads. So samples in the same order give the same
rates. As a strictly increasing map on all valid samples is the identity, only the samples that a
run hands in are asked to keep their order.
-/

namespace AdaptiveShaper

/-! ## Leaving the target out -/

/-- A call without the mean that it may hand in. -/
def RateCall.untimed : RateCall → RateCall
  | .signal now => .signal now
  | .tick now _ => .tick now none

namespace RateController

section

variable {R : Type}

/-- The controller with its target left out. -/
def untimed (c : RateController R) : RateController R := { c with rttTarget := .zero }

variable [RateNumber R]

theorem untimed_recover (c : RateController R) (now : Instant) :
    (c.recover now).1.untimed = (c.untimed.recover now).1 := by
  unfold recover
  simp only
  split
  · next h =>
    rw [if_pos]
    · rfl
    · exact h
  · next h =>
    rw [if_neg]
    · rfl
    · exact h

theorem untimed_step (c : RateController R) (now : Instant) :
    (c.step now).1.untimed = (c.untimed.step now).1 := by
  have hphase : c.untimed.phase = c.phase := rfl
  cases h : c.phase with
  | growing =>
    simp only [step, hphase, h]
    rfl
  | backoff =>
    simp only [step, hphase, h]
    rfl
  | recovering =>
    simp only [step, hphase, h]
    exact c.untimed_recover now

theorem untimed_retarget (c : RateController R) (rttMean : Option Span) :
    (c.retarget rttMean).untimed = c.untimed.retarget none := by
  cases rttMean <;> rfl

theorem untimed_tick (c : RateController R) (now : Instant) (rttMean : Option Span) :
    (c.tick now rttMean).1.untimed = (c.untimed.tick now none).1 := by
  have hstep := untimed_step { c with totalTicks := c.totalTicks + 1 } now
  change ((({ c with totalTicks := c.totalTicks + 1 } : RateController R).step
    now).1.retarget rttMean).untimed = _
  rw [untimed_retarget, hstep]
  rfl

theorem untimed_answer (c : RateController R) (call : RateCall) :
    (c.answer call).1.untimed = (c.untimed.answer call.untimed).1 := by
  cases call with
  | signal now => rfl
  | tick now rttMean => exact c.untimed_tick now rttMean

/-- The target and the means may be left out before a run or after it. -/
theorem untimed_run (c : RateController R) (calls : List RateCall) :
    (c.run calls).untimed = c.untimed.run (calls.map RateCall.untimed) := by
  induction calls generalizing c with
  | nil => rfl
  | cons call calls ih => rw [run_cons, ih, untimed_answer, List.map_cons, run_cons]

end

/-- Neither the target nor the means that ticks hand in have an influence on anything else. -/
theorem untimed_run_congr {c c' : RateController Float} {calls calls' : List RateCall}
    (hc : c'.untimed = c.untimed)
    (hcalls : calls'.map RateCall.untimed = calls.map RateCall.untimed) :
    (c'.run calls').untimed = (c.run calls).untimed := by
  rw [untimed_run, untimed_run, hc, hcalls]

end RateController

/-! ## Leaving out what comes from round-trip times -/

def RateStats.untimed {R : Type} (v : RateStats R) : RateStats R := { v with rttTarget := .zero }

def Setpoint.untimed {R : Type} (p : Setpoint R) : Setpoint R := { p with rttMicros := 0 }

def Call.untimed (c : Call) : Call := { c with setpoint := c.setpoint.untimed }

def Health.untimed (h : Health) : Health :=
  { h with lastApplied := h.lastApplied.map Setpoint.untimed }

theorem Health.untimed_observe (h : Health) (threshold : Nat) (p : Setpoint Float) (o : Outcome) :
    (h.observe threshold p o).1.untimed = (h.untimed.observe threshold p.untimed o).1 := by
  cases o <;> rfl

/-- Figures without those that come from round-trip times, and without the health, since an actuator
is handed the target and may answer accordingly. -/
def Snapshot.untimed (s : Snapshot) : Snapshot :=
  { s.forget with rttAverage := .zero, controller := s.controller.map RateStats.untimed }

namespace ControlLoop

def untimed (l : ControlLoop) : ControlLoop :=
  { l.forget with
    rttWindow := .empty 0
    detector := .idle
    controller := l.controller.untimed }

theorem untimed_take (l : ControlLoop) (now : Instant) (s : RttSample) :
    (l.take now s).1.untimed = if latencyIncreased l.detector.previous s.span then
      { l.untimed with controller := (l.untimed.controller.signal now).1 } else l.untimed := by
  cases h : latencyIncreased l.detector.previous s.span <;>
    simp only [take, Detector.observe, h] <;> rfl

theorem untimed_control (l : ControlLoop) (now : Instant) :
    (l.control now).1.untimed = (l.untimed.control now).1 := by
  have htick := l.controller.untimed_tick now l.rttMean?
  change ({ l.untimed with controller := (l.controller.tick now l.rttMean?).1.untimed } :
    ControlLoop).pushRates (l.controller.tick now l.rttMean?).1.untimed.setpoints = _
  rw [htick]
  rfl

theorem untimed_setpoint (l : ControlLoop) (d : Direction) :
    (l.untimed.setpoints.get d).untimed = (l.setpoints.get d).untimed := by
  cases d <;> rfl

theorem untimed_snapshot (l : ControlLoop) (q : IngestQueue) (now : Instant) :
    (l.snapshot q now).untimed =
      { (l.untimed.snapshot (.empty 0) now).untimed with
        sampleCount := l.rttWindow.length
        windowCapacity := l.rttWindow.capacity
        ingestionErrors := q.errors
        droppedSamples := q.dropped } := rfl

end ControlLoop

/-! ## Samples in the same order -/

def RttSample.rescale (f : Span → Span) (x : RttSample) : RttSample := ⟨f x.span, x.seq⟩

/-- The same queue with other spans. -/
def IngestQueue.rescale (f : Span → Span) (q : IngestQueue) : IngestQueue :=
  { q with waiting := q.waiting.map (RttSample.rescale f) }

theorem IngestQueue.enqueue_rescale (f : Span → Span) (q : IngestQueue) (d : Span) :
    ((q.rescale f).enqueue (f d)).queue = (q.enqueue d).queue.rescale f ∧
      ((q.rescale f).enqueue (f d)).outcome = (q.enqueue d).outcome := by
  have hattached : (q.rescale f).attached = q.attached := rfl
  have hlength : (q.rescale f).waiting.length = q.waiting.length := List.length_map _
  have hcapacity : (q.rescale f).capacity = q.capacity := rfl
  unfold enqueue
  rw [hattached, hlength, hcapacity]
  split
  · exact ⟨rfl, rfl⟩
  · split
    · refine ⟨?_, rfl⟩
      simp [rescale, RttSample.rescale]
    · exact ⟨rfl, rfl⟩

theorem IngestQueue.mem_waiting_enqueue {q : IngestQueue} {d : Span} {x : RttSample}
    (hx : x ∈ (q.enqueue d).queue.waiting) : x ∈ q.waiting ∨ x = ⟨d, q.nextSeq⟩ := by
  unfold enqueue at hx
  split at hx
  · exact .inl hx
  · split at hx
    · exact (List.mem_append.mp hx).imp_right List.mem_singleton.mp
    · exact .inl hx

/-- Whether `f` keeps the order of the spans `xs`. -/
def KeepsOrder (f : Span → Span) (xs : List Span) : Prop :=
  ∀ d ∈ xs, ∀ e ∈ xs, d < e → f d < f e

instance (f : Span → Span) (xs : List Span) : Decidable (KeepsOrder f xs) :=
  inferInstanceAs (Decidable (∀ d ∈ xs, ∀ e ∈ xs, d < e → f d < f e))

theorem KeepsOrder.latencyIncreased_eq {f : Span → Span} {xs : List Span} (hf : KeepsOrder f xs)
    {d e : Span} (hd : d ∈ xs) (he : e ∈ xs) :
    latencyIncreased (f d) (f e) = latencyIncreased d e := by
  rcases Nat.lt_trichotomy d.nanos e.nanos with hlt | heq | hgt
  · have hle : f d < f e := hf d hd e he hlt
    have hde : d < e := hlt
    simp [latencyIncreased, hle, hde]
  · have hsame : d = e := Span.ext heq
    simp [latencyIncreased, hsame, Span.lt_iff]
  · have hle : ¬ f d < f e := Nat.lt_asymm (hf e he d hd hgt)
    have hde : ¬ d < e := Nat.lt_asymm hgt
    simp [latencyIncreased, hle, hde]

namespace ControlLoop

variable {f : Span → Span} {xs : List Span} {l l' : ControlLoop}

/-- The loop `l'` has taken `f d` wherever `l` has taken a sample `d`, one of `xs`. -/
structure Rescaled (f : Span → Span) (xs : List Span) (l l' : ControlLoop) : Prop where
  untimed_eq : l'.untimed = l.untimed
  capacity_eq : l'.rttWindow.capacity = l.rttWindow.capacity
  samples_eq : l'.rttWindow.samples = l.rttWindow.samples.map f
  detector : (l.detector = .idle ∧ l'.detector = .idle) ∨
    ∃ d ∈ xs, l.detector = ⟨d⟩ ∧ l'.detector = ⟨f d⟩

theorem Rescaled.latencyIncreased_eq (h : l.Rescaled f xs l') (hf : KeepsOrder f xs) {d : Span}
    (hd : d ∈ xs) : latencyIncreased l'.detector.previous (f d) =
      latencyIncreased l.detector.previous d := by
  rcases h.detector with ⟨hl, hl'⟩ | ⟨e, he, hl, hl'⟩
  · rw [hl, hl']
    exact (not_latencyIncreased_longest _).trans (not_latencyIncreased_longest _).symm
  · rw [hl, hl']
    exact hf.latencyIncreased_eq he hd

theorem Rescaled.samples_push (h : l.Rescaled f xs l') (d : Span) :
    (l'.rttWindow.push (f d)).1.samples = (l.rttWindow.push d).1.samples.map f := by
  have hfull : l'.rttWindow.isFull = l.rttWindow.isFull := by
    simp only [SlidingWindow.isFull, SlidingWindow.length, h.samples_eq, h.capacity_eq,
      List.length_map]
  rw [SlidingWindow.samples_push, SlidingWindow.samples_push, hfull, h.samples_eq, List.map_append]
  congr 1
  split
  · rw [List.map_tail]
  · rfl

theorem Rescaled.take (h : l.Rescaled f xs l') (hf : KeepsOrder f xs) (now : Instant)
    {x : RttSample} (hx : x.span ∈ xs) :
    (l.take now x).1.Rescaled f xs (l'.take now (x.rescale f)).1 where
  untimed_eq := by
    have hincreased : latencyIncreased l'.detector.previous (x.rescale f).span = _ :=
      h.latencyIncreased_eq hf hx
    rw [untimed_take, untimed_take, hincreased, h.untimed_eq]
  capacity_eq := by
    rw [rttWindow_take, rttWindow_take, SlidingWindow.capacity_push, SlidingWindow.capacity_push]
    exact h.capacity_eq
  samples_eq := by
    rw [rttWindow_take, rttWindow_take]
    exact h.samples_push x.span
  detector := .inr ⟨x.span, hx, detector_take l now x, detector_take l' now (x.rescale f)⟩

theorem Rescaled.takeAll (h : l.Rescaled f xs l') (hf : KeepsOrder f xs) (reading : Nat → Instant)
    (i : Nat) (samples : List RttSample) (hxs : ∀ x ∈ samples, x.span ∈ xs) :
    (l.takeAll reading i samples).1.Rescaled f xs
      (l'.takeAll reading i (samples.map (RttSample.rescale f))).1 := by
  induction samples generalizing l l' i with
  | nil => exact h
  | cons x rest ih =>
    have hx : x.span ∈ xs := hxs x List.mem_cons_self
    exact ih (h.take hf (reading i) hx) (i + 1) fun y hy => hxs y (List.mem_cons_of_mem x hy)

theorem Rescaled.regulate (h : l.Rescaled f xs l') (hf : KeepsOrder f xs) (clock : TickClock)
    (samples : List RttSample) (hxs : ∀ x ∈ samples, x.span ∈ xs) :
    (l.regulate clock samples).1.Rescaled f xs
      (l'.regulate clock (samples.map (RttSample.rescale f))).1 := by
  obtain ⟨huntimed, hcapacity, hsamples, hdetector⟩ := h.takeAll hf clock.sample 0 samples hxs
  refine ⟨?_, hcapacity, hsamples, hdetector⟩
  change ((l'.takeAll clock.sample 0 _).1.control clock.control).1.untimed =
    ((l.takeAll clock.sample 0 samples).1.control clock.control).1.untimed
  rw [untimed_control, untimed_control, huntimed]

theorem Rescaled.settle (h : l.Rescaled f xs l') (drained : Nat) (elapsed : Span)
    (r t : Both Reply) :
    (l.settle drained elapsed r).1.Rescaled f xs (l'.settle drained elapsed t).1 := by
  have hsettled := congrArg (fun k : ControlLoop => (k.settle drained elapsed r).1.untimed)
    h.untimed_eq
  exact ⟨hsettled, h.capacity_eq, h.samples_eq, h.detector⟩

theorem Rescaled.calls_eq (h : l.Rescaled f xs l') :
    l'.calls.map Call.untimed = l.calls.map Call.untimed := by
  have hcalls := congrArg (fun k : ControlLoop => k.calls.map Call.untimed) h.untimed_eq
  exact hcalls

theorem Rescaled.health_settle (h : l.Rescaled f xs l') (drained : Nat) (elapsed : Span)
    {r t : Both Reply} {d : Direction} (houtcome : (t.get d).outcome = (r.get d).outcome)
    (hhealth : (l'.adapter.health.get d).untimed = (l.adapter.health.get d).untimed) :
    ((l'.settle drained elapsed t).1.adapter.health.get d).untimed =
      ((l.settle drained elapsed r).1.adapter.health.get d).untimed := by
  have hthreshold := congrArg (fun k : ControlLoop => k.adapter.threshold) h.untimed_eq
  change l'.adapter.threshold = l.adapter.threshold at hthreshold
  have hsetpoint : (l'.setpoints.get d).untimed = (l.setpoints.get d).untimed := by
    rw [← untimed_setpoint, h.untimed_eq, untimed_setpoint]
  rw [ControlLoop.health_settle, ControlLoop.health_settle, Health.untimed_observe,
    Health.untimed_observe, hthreshold, hsetpoint, houtcome, hhealth]

theorem Rescaled.snapshot_eq (h : l.Rescaled f xs l') {q q' : IngestQueue}
    (herrors : q'.errors = q.errors) (hdropped : q'.dropped = q.dropped) (now : Instant) :
    (l'.snapshot q' now).untimed = (l.snapshot q now).untimed := by
  have hlength : l'.rttWindow.length = l.rttWindow.length := by
    rw [SlidingWindow.length, h.samples_eq, List.length_map]
    rfl
  rw [untimed_snapshot l', h.untimed_eq, hlength, h.capacity_eq, herrors, hdropped]
  exact (untimed_snapshot l q now).symm

end ControlLoop

/-! ## Courses -/

/-- In the second action, the sample `f d` is handed in if `d` is in the first one. Samples that are
rejected may be any. -/
inductive Action.Rescaled (f : Span → Span) : Action → Action → Prop where
  | valid {i j : SampleInput} {d : Span} (hi : i.read = .ok d) (hj : j.read = .ok (f d)) :
    Rescaled f (.record i) (.record j)
  | invalid {i j : SampleInput} {e e' : SampleError} (hi : i.read = .error e)
    (hj : j.read = .error e') : Rescaled f (.record i) (.record j)
  | tick (clock : TickClock) : Rescaled f (.tick clock) (.tick clock)
  | stop : Rescaled f .stop .stop

/-- The valid sample that is handed in, if there is one. -/
def Action.span? : Action → Option Span
  | .record i => i.read.toOption
  | .tick _ => none
  | .stop => none

namespace Course

variable {σ τ : Type} {f : Span → Span} {xs : List Span} {c : Course σ} {d : Course τ}

def outcomes (c : Course σ) : List Outcome := c.exchanges.map fun x => x.reply.outcome

theorem outcomes_tick (actuator : Actuator σ) (c : Course σ) (clock : TickClock) :
    (c.tick actuator clock).outcomes = c.outcomes ++
      ((actuator.applyBoth c.port (c.service.regulate clock).1.loop.calls).2.map
        Reply.outcome).toList :=
  List.map_append

/-- What two courses agree on if the second is handed `f d` for each sample `d` of the first. -/
structure Rescaled (f : Span → Span) (xs : List Span) (c : Course σ) (d : Course τ) : Prop where
  loop : c.service.loop.Rescaled f xs d.service.loop
  queue_eq : d.service.queue = c.service.queue.rescale f
  waiting_mem : ∀ x ∈ c.service.queue.waiting, x.span ∈ xs
  published_eq : d.service.published.untimed = c.service.published.untimed
  calls_eq : d.exchanges.map (fun x => x.call.untimed) = c.exchanges.map fun x => x.call.untimed
  /-- The health follows the answers of the actuators. -/
  health_eq : d.outcomes = c.outcomes → ∀ e : Direction,
    (d.service.loop.adapter.health.get e).untimed = (c.service.loop.adapter.health.get e).untimed

theorem Rescaled.record_valid (h : c.Rescaled f xs d) {i j : SampleInput} {x : Span}
    (hi : i.read = .ok x) (hj : j.read = .ok (f x)) (hx : x ∈ xs) :
    (c.record i).Rescaled f xs (d.record j) := by
  refine ⟨h.loop, ?_, ?_, h.published_eq, h.calls_eq, h.health_eq⟩
  · change (d.service.queue.record j).queue = (c.service.queue.record i).queue.rescale f
    rw [IngestQueue.record_of_ok _ hi, IngestQueue.record_of_ok _ hj, h.queue_eq]
    exact (IngestQueue.enqueue_rescale f _ x).1
  · change ∀ y ∈ (c.service.queue.record i).queue.waiting, y.span ∈ xs
    rw [IngestQueue.record_of_ok _ hi]
    intro y hy
    rcases IngestQueue.mem_waiting_enqueue hy with hy | rfl
    · exact h.waiting_mem y hy
    · exact hx

theorem Rescaled.record_invalid (h : c.Rescaled f xs d) {i j : SampleInput} {e e' : SampleError}
    (hi : i.read = .error e) (hj : j.read = .error e') :
    (c.record i).Rescaled f xs (d.record j) := by
  refine ⟨h.loop, ?_, ?_, h.published_eq, h.calls_eq, h.health_eq⟩
  · change (d.service.queue.record j).queue = (c.service.queue.record i).queue.rescale f
    rw [IngestQueue.record_of_error _ hi, IngestQueue.record_of_error _ hj, h.queue_eq]
    rfl
  · change ∀ y ∈ (c.service.queue.record i).queue.waiting, y.span ∈ xs
    rw [IngestQueue.record_of_error _ hi]
    exact h.waiting_mem

theorem Rescaled.tick (h : c.Rescaled f xs d) (hf : KeepsOrder f xs) (actuator : Actuator σ)
    (other : Actuator τ) (clock : TickClock) :
    (c.tick actuator clock).Rescaled f xs (d.tick other clock) := by
  have hwaiting : d.service.queue.waiting = c.service.queue.waiting.map (RttSample.rescale f) :=
    congrArg IngestQueue.waiting h.queue_eq
  have hregulated := h.loop.regulate hf clock c.service.queue.waiting h.waiting_mem
  rw [← hwaiting] at hregulated
  let r := (actuator.applyBoth c.port (c.service.regulate clock).1.loop.calls).2
  let t := (other.applyBoth d.port (d.service.regulate clock).1.loop.calls).2
  have hsettled := hregulated.settle c.service.queue.waiting.length clock.applyTime r t
  constructor
  · exact hsettled
  · change d.service.queue.drain.1 = c.service.queue.drain.1.rescale f
    rw [h.queue_eq]
    rfl
  · intro x hx
    exact absurd hx List.not_mem_nil
  · have herrors := congrArg IngestQueue.errors h.queue_eq
    have hdropped := congrArg IngestQueue.dropped h.queue_eq
    exact hsettled.snapshot_eq herrors hdropped clock.publish
  · have hcalls := congrArg Both.toList hregulated.calls_eq
    simp only [Course.tick, List.map_append, h.calls_eq]
    exact congrArg (c.exchanges.map (fun x => x.call.untimed) ++ ·) hcalls
  · intro houtcomes e
    rw [outcomes_tick, outcomes_tick] at houtcomes
    obtain ⟨hpast, hreplies⟩ := List.append_inj' houtcomes rfl
    obtain ⟨hup, hdown⟩ := List.cons_eq_cons.mp hreplies
    have houtcome : (t.get e).outcome = (r.get e).outcome := by
      cases e with
      | uplink => exact hup
      | downlink => exact (List.cons_eq_cons.mp hdown).1
    refine hregulated.health_settle c.service.queue.waiting.length clock.applyTime houtcome ?_
    rw [ControlLoop.adapter_regulate, ControlLoop.adapter_regulate]
    exact h.health_eq hpast e

theorem Rescaled.stop (h : c.Rescaled f xs d) : c.stop.Rescaled f xs d.stop := by
  refine ⟨h.loop, ?_, ?_, h.published_eq, h.calls_eq, h.health_eq⟩
  · change d.service.queue.detach = c.service.queue.detach.rescale f
    rw [h.queue_eq]
    rfl
  · intro x hx
    exact absurd hx List.not_mem_nil

theorem Rescaled.step (h : c.Rescaled f xs d) (hf : KeepsOrder f xs) (actuator : Actuator σ)
    (other : Actuator τ) {a b : Action} (hab : a.Rescaled f b)
    (ha : ∀ x, a.span? = some x → x ∈ xs) :
    (c.step actuator a).Rescaled f xs (d.step other b) := by
  cases hab with
  | @valid i j x hi hj =>
    have hspan : (Action.record i).span? = some x := by
      rw [Action.span?, hi]
      rfl
    exact h.record_valid hi hj (ha x hspan)
  | invalid hi hj => exact h.record_invalid hi hj
  | tick clock =>
    have hrunning : d.service.isRunning = c.service.isRunning := by
      rw [Service.isRunning, h.queue_eq]
      rfl
    simp only [Course.step, hrunning]
    split
    · exact h.tick hf actuator other clock
    · exact h
  | stop => exact h.stop

theorem Rescaled.run (h : c.Rescaled f xs d) (hf : KeepsOrder f xs) (actuator : Actuator σ)
    (other : Actuator τ) {actions others : List Action}
    (hothers : List.Forall₂ (Action.Rescaled f) actions others)
    (hxs : ∀ x ∈ actions.filterMap Action.span?, x ∈ xs) :
    (c.run actuator actions).Rescaled f xs (d.run other others) := by
  induction hothers generalizing c d with
  | nil => exact h
  | @cons a b actions others hab _ ih =>
    have hrest : ∀ x ∈ actions.filterMap Action.span?, x ∈ xs := by
      intro x hx
      obtain ⟨a', ha', hspan⟩ := List.mem_filterMap.mp hx
      exact hxs x (List.mem_filterMap.mpr ⟨a', List.mem_cons_of_mem a ha', hspan⟩)
    refine ih (h.step hf actuator other hab fun x hx => ?_) hrest
    exact hxs x (List.mem_filterMap.mpr ⟨a, List.mem_cons_self, hx⟩)

/-- Two courses from the same accepted settings, with the same ticks and clock readings, of which
the second is handed `f d` wherever the first is handed `d`, where `f` keeps the order of the
samples handed to the first. They agree on the rates and all that these come from, on the windows
of the rates, on all counters, and on the calls but for the target. Nothing else tells them apart
than round-trip times, what is made of these, and health as far as the actuators answer
differently. A run of the rate controller depends neither on the target it begins with nor on the
means it is handed. -/
theorem rescaled_ofSettings (s : Settings) (h : s.validate = .ok ()) (f : Span → Span)
    (actuator : Actuator σ) (other : Actuator τ) (port : σ) (otherPort : τ)
    (actions others : List Action) (hf : KeepsOrder f (actions.filterMap Action.span?))
    (hothers : List.Forall₂ (Action.Rescaled f) actions others) :
    Service.new s = .ok (.start s) ∧
      (∀ c d, c = ofSettings s actuator port actions → d = ofSettings s other otherPort others →
        d.service.loop.controller.phase = c.service.loop.controller.phase ∧
        d.service.loop.controller.rate = c.service.loop.controller.rate ∧
        d.service.loop.controller.reference = c.service.loop.controller.reference ∧
        d.service.loop.controller.splitGso = c.service.loop.controller.splitGso ∧
        d.service.loop.controller.totalBackoffs = c.service.loop.controller.totalBackoffs ∧
        d.service.loop.controller.totalRecoveries = c.service.loop.controller.totalRecoveries ∧
        d.service.loop.controller.totalTicks = c.service.loop.controller.totalTicks ∧
        d.service.loop.rateWindows = c.service.loop.rateWindows ∧
        d.service.loop.untimed = c.service.loop.untimed ∧
        d.service.loop.rttWindow.samples = c.service.loop.rttWindow.samples.map f ∧
        d.service.queue = c.service.queue.rescale f ∧
        d.service.published.untimed = c.service.published.untimed ∧
        d.exchanges.map (fun x => x.call.untimed) = c.exchanges.map (fun x => x.call.untimed) ∧
        (d.outcomes = c.outcomes → ∀ e : Direction,
          (d.service.loop.adapter.health.get e).untimed =
            (c.service.loop.adapter.health.get e).untimed)) ∧
      ∀ (c c' : RateController Float) (calls calls' : List RateCall), c'.untimed = c.untimed →
        calls'.map RateCall.untimed = calls.map RateCall.untimed →
        (c'.run calls').untimed = (c.run calls).untimed := by
  refine ⟨Service.new_eq_ok h, ?_, fun _ _ _ _ => RateController.untimed_run_congr⟩
  rintro c d rfl rfl
  have hstart : (begin (.start s) port).Rescaled f (actions.filterMap Action.span?)
      (begin (.start s) otherPort) :=
    ⟨⟨rfl, rfl, rfl, .inl ⟨rfl, rfl⟩⟩, rfl, fun _ hx => absurd hx List.not_mem_nil, rfl, rfl,
      fun _ _ => rfl⟩
  obtain ⟨hloop, hqueue, _, hpublished, hcalls, hhealth⟩ :=
    hstart.run hf actuator other hothers fun _ hx => hx
  have hcontroller := congrArg ControlLoop.controller hloop.untimed_eq
  have hphase := congrArg RateController.phase hcontroller
  have hrate := congrArg RateController.rate hcontroller
  have hreference := congrArg RateController.reference hcontroller
  have hsplit := congrArg RateController.splitGso hcontroller
  have hbackoffs := congrArg RateController.totalBackoffs hcontroller
  have hrecoveries := congrArg RateController.totalRecoveries hcontroller
  have hticks := congrArg RateController.totalTicks hcontroller
  have hwindows := congrArg ControlLoop.rateWindows hloop.untimed_eq
  exact ⟨hphase, hrate, hreference, hsplit, hbackoffs, hrecoveries, hticks, hwindows,
    hloop.untimed_eq, hloop.samples_eq, hqueue, hpublished, hcalls, hhealth⟩

/-- Five and nine nanoseconds, and two milliseconds and three seconds in their place. -/
theorem rescaled_ofSettings_standard :
    Settings.standard.validate = .ok () ∧
      (ofSettings .standard .recording ⟨[], .same true⟩
          [.record (.text "2ms"), .record (.span (.ofSecs 3)),
            .tick (.steady .start .start)]).service.loop.controller.rate =
        (ofSettings .standard .dryRun () [.record (.nanos 5), .record (.nanos 9),
          .tick (.steady .start .start)]).service.loop.controller.rate := by
  have h : Settings.standard.validate = .ok () := rfl
  let f : Span → Span := fun d => if d.nanos ≤ 5 then .ofMillis 2 else .ofSecs 3
  have hothers : List.Forall₂ (Action.Rescaled f)
      [.record (.nanos 5), .record (.nanos 9), .tick (.steady .start .start)]
      [.record (.text "2ms"), .record (.span (.ofSecs 3)), .tick (.steady .start .start)] :=
    .cons (.valid (d := ⟨5, by decide⟩) rfl rfl)
      (.cons (.valid (d := ⟨9, by decide⟩) rfl rfl) (.cons (.tick _) .nil))
  have hf : KeepsOrder f ([.record (.nanos 5), .record (.nanos 9),
      .tick (.steady .start .start)].filterMap Action.span?) := by decide
  exact ⟨h, ((rescaled_ofSettings .standard h f .dryRun .recording () ⟨[], .same true⟩ _ _ hf
    hothers).2.1 _ _ rfl rfl).2.1⟩

end Course
end AdaptiveShaper
