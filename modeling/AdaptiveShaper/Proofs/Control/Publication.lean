import AdaptiveShaper.Proofs.Control.Detection
import AdaptiveShaper.Proofs.Shaper.Past
import AdaptiveShaper.Proofs.Window.Median

/-!
# What is published fits together

The figures that a tick publishes come from parts that are kept up to date on their own. At the
moment of publication they all tell of the same ticks: every part has counted each tick once, the
windows hold what was sent out last, and the health is that of the attempts made so far.
-/

namespace AdaptiveShaper

theorem Both.any_iff {α : Type} (p : α → Bool) (b : Both α) :
    b.any p = true ↔ ∃ d, p (b.get d) = true := by
  rw [any, Bool.or_eq_true]
  constructor
  · rintro (hup | hdown)
    · exact ⟨.uplink, hup⟩
    · exact ⟨.downlink, hdown⟩
  · rintro ⟨d, hd⟩
    cases d
    · exact .inl hd
    · exact .inr hd

/-- The rates that were sent out for a direction, in order. -/
def emitted (d : Direction) (past : List Exchange) : List Float :=
  (past.filter fun x => x.call.setpoint.direction = d).map fun x => x.call.setpoint.rateKbit

/-! ## What a loop has recorded after some ticks -/

namespace ControlLoop

/-- The two exchanges of a tick that makes the calls `calls`. -/
def exchanges (calls : Both Call) (replies : Both Reply) : List Exchange :=
  [⟨calls.uplink, replies.uplink⟩, ⟨calls.downlink, replies.downlink⟩]

theorem emitted_exchanges (l : ControlLoop) (replies : Both Reply) (d : Direction)
    (past : List Exchange) : emitted d (past ++ exchanges l.calls replies) =
      emitted d past ++ [l.controller.rate.get d] := by
  have hown : emitted d (exchanges l.calls replies) = [l.controller.rate.get d] := by
    cases d <;> rfl
  rw [emitted, List.filter_append, List.map_append]
  exact congrArg (emitted d past ++ ·) hown

/-- What a loop with the settings `s` has recorded after `n` ticks in which the calls of `past` were
made. -/
structure Records (s : Settings) (n : Nat) (past : List Exchange) (l : ControlLoop) : Prop where
  ticks_eq : l.ticks = n
  totalTicks_eq : l.controller.totalTicks = n
  totalApplies_eq : ∀ d, (l.adapter.health.get d).totalApplies = n
  length_emitted : ∀ d, (emitted d past).length = n
  capacity_eq : ∀ d, (l.rateWindows.get d).capacity = s.windowCapacity
  samples_eq : ∀ d, (l.rateWindows.get d).samples = (emitted d past).rtake s.windowCapacity
  /-- Thresholds that the counter of failures cannot reach are left out. -/
  remembers : s.failureThreshold ≤ Health.maxConsecutive →
    l.adapter.Remembers s.interfaces s.failureThreshold (past.map Exchange.attempt)

variable {s : Settings} {l : ControlLoop} {n : Nat} {past : List Exchange}

theorem Records.start (hs : s.Valid) : (start s).Records s 0 [] where
  ticks_eq := rfl
  totalTicks_eq := rfl
  totalApplies_eq d := by cases d <;> rfl
  length_emitted _ := rfl
  capacity_eq d := by cases d <;> exact Nat.max_eq_left hs.windowCapacity_pos
  samples_eq d := by cases d <;> exact (List.rtake_nil _).symm
  remembers _ := .new s.interfaces s.failureThreshold

theorem totalTicks_take (l : ControlLoop) (now : Instant) (x : RttSample) :
    (l.take now x).1.controller.totalTicks = l.controller.totalTicks := by
  unfold ControlLoop.take
  simp only
  split <;> rfl

theorem totalTicks_takeAll (l : ControlLoop) (reading : Nat → Instant) (i : Nat)
    (samples : List RttSample) :
    (l.takeAll reading i samples).1.controller.totalTicks = l.controller.totalTicks := by
  induction samples generalizing l i with
  | nil => rfl
  | cons x samples ih =>
    rw [← totalTicks_take l (reading i) x]
    exact ih _ (i + 1)

theorem totalTicks_regulate (l : ControlLoop) (clock : TickClock) (samples : List RttSample) :
    (l.regulate clock samples).1.controller.totalTicks = l.controller.totalTicks + 1 := by
  rw [← l.totalTicks_takeAll clock.sample 0 samples]
  exact RateController.totalTicks_tick _ _ _

theorem rateWindows_regulate (l : ControlLoop) (clock : TickClock) (samples : List RttSample)
    (d : Direction) : (l.regulate clock samples).1.rateWindows.get d =
      ((l.rateWindows.get d).push ((l.regulate clock samples).1.controller.rate.get d)).1 := by
  rw [← l.rateWindows_takeAll clock.sample 0 samples]
  cases d <;> rfl

theorem Records.tick (h : l.Records s n past) (clock : TickClock) (samples : List RttSample)
    (replies : Both Reply) :
    (l.tick clock samples replies).1.Records s (n + 1)
      (past ++ exchanges (l.regulate clock samples).1.calls replies) where
  ticks_eq := by rw [ticks_tick, h.ticks_eq]
  totalTicks_eq := by
    rw [← h.totalTicks_eq]
    exact l.totalTicks_regulate clock samples
  totalApplies_eq d := by
    change ((((l.regulate clock samples).1.settle samples.length clock.applyTime
      replies).1).adapter.health.get d).totalApplies = n + 1
    rw [health_settle, Health.totalApplies_observe, adapter_regulate, h.totalApplies_eq]
  length_emitted d := by
    rw [emitted_exchanges, List.length_append, h.length_emitted]
    rfl
  capacity_eq d := by
    change ((l.regulate clock samples).1.rateWindows.get d).capacity = _
    rw [rateWindows_regulate, SlidingWindow.capacity_push, h.capacity_eq]
  samples_eq d := by
    change ((l.regulate clock samples).1.rateWindows.get d).samples = _
    have hsamples : (l.rateWindows.get d).samples =
        (emitted d past).rtake (l.rateWindows.get d).capacity := by
      rw [h.capacity_eq, h.samples_eq]
    rw [rateWindows_regulate, SlidingWindow.samples_push_eq_rtake hsamples, h.capacity_eq,
      emitted_exchanges]
  remembers hle := by
    have hbefore := h.remembers hle
    rw [← l.adapter_regulate clock samples] at hbefore
    have hafter := (hbefore.observe hle
      ⟨(l.regulate clock samples).1.setpoints.uplink, replies.uplink.outcome⟩).observe hle
      ⟨(l.regulate clock samples).1.setpoints.downlink, replies.downlink.outcome⟩
    rw [List.append_assoc] at hafter
    rw [List.map_append]
    exact hafter

end ControlLoop

/-! ## Counters never go back -/

namespace Snapshot

/-- No counter of `q` is less than it is in `p`. -/
structure Precedes (p q : Snapshot) : Prop where
  ticks_le : p.ticks ≤ q.ticks
  controller : ∀ v, p.controller = some v → ∃ w, q.controller = some w ∧
    v.totalBackoffs ≤ w.totalBackoffs ∧ v.totalRecoveries ≤ w.totalRecoveries
  totalApplies_le : ∀ d, (p.health.get d).totalApplies ≤ (q.health.get d).totalApplies
  totalFailures_le : ∀ d, (p.health.get d).totalFailures ≤ (q.health.get d).totalFailures
  ingestionErrors_le : p.ingestionErrors ≤ q.ingestionErrors
  droppedSamples_le : p.droppedSamples ≤ q.droppedSamples

theorem Precedes.refl (p : Snapshot) : p.Precedes p where
  ticks_le := Nat.le_refl _
  controller v hv := ⟨v, hv, Nat.le_refl _, Nat.le_refl _⟩
  totalApplies_le _ := Nat.le_refl _
  totalFailures_le _ := Nat.le_refl _
  ingestionErrors_le := Nat.le_refl _
  droppedSamples_le := Nat.le_refl _

theorem Precedes.trans {p q r : Snapshot} (h : p.Precedes q) (h' : q.Precedes r) :
    p.Precedes r where
  ticks_le := Nat.le_trans h.ticks_le h'.ticks_le
  controller v hv := by
    obtain ⟨w, hw, hbackoffs, hrecoveries⟩ := h.controller v hv
    obtain ⟨u, hu, hbackoffs', hrecoveries'⟩ := h'.controller w hw
    exact ⟨u, hu, Nat.le_trans hbackoffs hbackoffs', Nat.le_trans hrecoveries hrecoveries'⟩
  totalApplies_le d := Nat.le_trans (h.totalApplies_le d) (h'.totalApplies_le d)
  totalFailures_le d := Nat.le_trans (h.totalFailures_le d) (h'.totalFailures_le d)
  ingestionErrors_le := Nat.le_trans h.ingestionErrors_le h'.ingestionErrors_le
  droppedSamples_le := Nat.le_trans h.droppedSamples_le h'.droppedSamples_le

end Snapshot

theorem RateController.totalRecoveries_le_tick {R : Type} [RateNumber R] (c : RateController R)
    (now : Instant) (rttMean : Option Span) :
    c.totalRecoveries ≤ (c.tick now rttMean).1.totalRecoveries := by
  cases phaseStep_tick c now rttMean with
  | grow h₁ h₂ h₃ h₄ => exact Nat.le_of_eq h₄.symm
  | settle h₁ h₂ h₃ => exact Nat.le_of_eq h₃.symm
  | climb h₁ h₂ h₃ => exact Nat.le_of_eq h₃.symm
  | arrive h₁ h₂ h₃ h₄ =>
    rw [h₄]
    exact Nat.le_succ _

theorem Health.totalFailures_le_observe (h : Health) (threshold : Nat) (p : Setpoint Float)
    (o : Outcome) : h.totalFailures ≤ (h.observe threshold p o).1.totalFailures := by
  cases o with
  | ok u => exact Nat.le_refl _
  | error e => exact Nat.le_succ _

namespace IngestQueue

theorem errors_le_record (q : IngestQueue) (i : SampleInput) :
    q.errors ≤ (q.record i).queue.errors := by
  rw [record_eq]
  split
  · rw [errors_enqueue]
  · exact Nat.le_succ _

theorem dropped_le_record (q : IngestQueue) (i : SampleInput) :
    q.dropped ≤ (q.record i).queue.dropped := by
  rw [record_eq]
  split
  · unfold enqueue
    split
    · exact Nat.le_refl _
    · split
      · exact Nat.le_refl _
      · exact Nat.le_succ _
  · exact Nat.le_refl _

end IngestQueue

namespace ControlLoop

theorem precedes_take (l : ControlLoop) (q : IngestQueue) (reading now : Instant)
    (x : RttSample) : (l.snapshot q now).Precedes ((l.take reading x).1.snapshot q now) := by
  unfold ControlLoop.take
  simp only
  split
  · refine { Snapshot.Precedes.refl (l.snapshot q now) with controller := ?_ }
    rintro v ⟨rfl⟩
    exact ⟨_, rfl, Nat.le_succ _, Nat.le_refl _⟩
  · refine { Snapshot.Precedes.refl (l.snapshot q now) with controller := ?_ }
    rintro v ⟨rfl⟩
    exact ⟨_, rfl, Nat.le_refl _, Nat.le_refl _⟩

theorem precedes_takeAll (l : ControlLoop) (q : IngestQueue) (now : Instant)
    (reading : Nat → Instant) (i : Nat) (samples : List RttSample) :
    (l.snapshot q now).Precedes ((l.takeAll reading i samples).1.snapshot q now) := by
  induction samples generalizing l i with
  | nil => exact .refl _
  | cons x samples ih => exact (l.precedes_take q (reading i) now x).trans (ih _ (i + 1))

theorem precedes_control (l : ControlLoop) (q : IngestQueue) (reading now : Instant) :
    (l.snapshot q now).Precedes ((l.control reading).1.snapshot q now) := by
  refine { Snapshot.Precedes.refl (l.snapshot q now) with controller := ?_ }
  rintro v ⟨rfl⟩
  exact ⟨_, rfl, Nat.le_of_eq (l.controller.totalBackoffs_tick reading l.rttMean?).symm,
    l.controller.totalRecoveries_le_tick reading l.rttMean?⟩

theorem precedes_settle (l : ControlLoop) (q : IngestQueue) (now : Instant) (drained : Nat)
    (elapsed : Span) (replies : Both Reply) :
    (l.snapshot q now).Precedes ((l.settle drained elapsed replies).1.snapshot q now) := by
  refine { Snapshot.Precedes.refl (l.snapshot q now) with
    ticks_le := Nat.le_succ _, totalApplies_le := fun d => ?_, totalFailures_le := fun d => ?_ }
  · change (l.adapter.health.get d).totalApplies ≤
      ((l.settle drained elapsed replies).1.adapter.health.get d).totalApplies
    rw [health_settle, Health.totalApplies_observe]
    exact Nat.le_succ _
  · change (l.adapter.health.get d).totalFailures ≤
      ((l.settle drained elapsed replies).1.adapter.health.get d).totalFailures
    rw [health_settle]
    exact Health.totalFailures_le_observe _ _ _ _

/-- When figures are taken has no influence on the counters. -/
theorem precedes_later (l : ControlLoop) (q : IngestQueue) (now later : Instant) :
    (l.snapshot q now).Precedes (l.snapshot q later) := by
  refine { Snapshot.Precedes.refl (l.snapshot q now) with controller := ?_ }
  rintro v ⟨rfl⟩
  exact ⟨_, rfl, Nat.le_refl _, Nat.le_refl _⟩

theorem precedes_tick (l : ControlLoop) (q : IngestQueue) (now : Instant) (clock : TickClock)
    (samples : List RttSample) (replies : Both Reply) :
    (l.snapshot q now).Precedes ((l.tick clock samples replies).1.snapshot q now) :=
  ((l.precedes_takeAll q now clock.sample 0 samples).trans (precedes_control _ q _ now)).trans
    (precedes_settle _ q now samples.length clock.applyTime replies)

end ControlLoop

/-! ## Courses -/

def Action.isTick : Action → Bool
  | .record _ => false
  | .tick _ => true
  | .stop => false

namespace Course

variable {σ : Type} {s : Settings}

theorem records_ofSettings (hs : s.Valid) (actuator : Actuator σ) (port : σ)
    {actions : List Action} (hstop : Action.stop ∉ actions) :
    (ofSettings s actuator port actions).service.loop.Records s (actions.countP Action.isTick)
      (ofSettings s actuator port actions).exchanges := by
  induction actions using List.reverseRecOn with
  | nil => exact ControlLoop.Records.start hs
  | append_singleton actions a ih =>
    rw [List.mem_append, not_or, List.mem_singleton] at hstop
    have hbefore := ih hstop.1
    rw [List.countP_append]
    cases a with
    | record i =>
      rw [ofSettings, run_concat]
      exact hbefore
    | tick clock =>
      rw [ofSettings_concat_tick s actuator port hstop.1]
      exact hbefore.tick clock _ _
    | stop => exact absurd rfl hstop.2

/-- The snapshot of a course that has just made its `n`-th tick. -/
structure Coherent (s : Settings) (n : Nat) (c : Course σ) : Prop where
  ticks_eq : c.service.published.ticks = n
  controller : ∃ v, c.service.published.controller = some v ∧ v.totalTicks = n ∧
    v.phase ≠ .backoff
  totalApplies_eq : ∀ d, (c.service.published.health.get d).totalApplies = n
  sampleCount_eq : c.service.published.sampleCount = min c.drained.length s.windowCapacity
  dataTotal_eq : c.service.published.dataTotal =
    toString (min c.drained.length s.windowCapacity) ++ " of " ++ toString s.windowCapacity
  length_emitted : ∀ d, (emitted d c.exchanges).length = n
  median : ∀ d, ∃ x, IsMedian x
      (((emitted d c.exchanges).rtake (min n s.windowCapacity)).map Binary64.Word.ofFloat) ∧
    c.service.published.rateMedian.get d = x.toFloat
  /-- The program keeps the threshold as a number of 32 bits. -/
  degraded_iff : s.failureThreshold ≤ Health.maxConsecutive →
    (c.service.published.degraded = true ↔ ∃ d, s.failureThreshold ≤
      Health.trailingFailures (Attempt.ofDirection d (c.exchanges.map Exchange.attempt)))
  ingestionErrors_eq : c.service.published.ingestionErrors = c.service.queue.errors
  droppedSamples_eq : c.service.published.droppedSamples = c.service.queue.dropped

theorem coherent_of_records (hs : s.Valid) {c : Course σ} {n : Nat} (now : Instant)
    (hpublished : c.service.published = c.service.loop.snapshot c.service.queue now)
    (hseen : c.service.loop.HasSeen s.windowCapacity (c.drained.map RttSample.span))
    (hrecords : c.service.loop.Records s n c.exchanges) (hn : 0 < n)
    (hphase : c.service.loop.controller.phase ≠ .backoff) : c.Coherent s n := by
  have hcount : c.service.loop.rttWindow.length = min c.drained.length s.windowCapacity := by
    rw [SlidingWindow.length, hseen.samples_eq, length_rtake, List.length_map]
  have hcapacity : c.service.loop.rttWindow.capacity = s.windowCapacity := hseen.capacity_eq
  constructor
  · rw [hpublished]
    exact hrecords.ticks_eq
  · rw [hpublished]
    exact ⟨_, rfl, hrecords.totalTicks_eq, hphase⟩
  · rw [hpublished]
    exact hrecords.totalApplies_eq
  · rw [hpublished]
    exact hcount
  · rw [hpublished, ← hcount, ← hcapacity]
    rfl
  · exact hrecords.length_emitted
  · intro d
    have hsamples : (c.service.loop.rateWindows.get d).samples =
        (emitted d c.exchanges).rtake (min n s.windowCapacity) := by
      have hlength := hrecords.length_emitted d
      rw [hrecords.samples_eq, List.rtake, List.rtake, hlength]
      exact congrArg (emitted d c.exchanges).drop (by omega)
    have hne : (c.service.loop.rateWindows.get d).samples ≠ [] := by
      have hwindow := hs.windowCapacity_pos
      rw [hrecords.samples_eq, ← List.length_pos_iff, length_rtake, hrecords.length_emitted]
      omega
    have hmedian := SlidingWindow.isMedian_median hne
    rw [SlidingWindow.words, hsamples] at hmedian
    refine ⟨_, hmedian, ?_⟩
    rw [hpublished]
    exact Both.get_map _ _ d
  · intro hle
    have hhealth := (hrecords.remembers hle).health_eq
    rw [hpublished]
    refine (Both.any_iff _ _).trans (exists_congr fun d => ?_)
    change (c.service.loop.adapter.health.get d).degraded = true ↔ _
    rw [hhealth, Nat.max_eq_left hs.failureThreshold_pos]
    exact decide_eq_true_iff
  · rw [hpublished]
    rfl
  · rw [hpublished]
    rfl

/-! ### Later snapshots -/

/-- What was published last shows no more than what has been counted by now. -/
def UpToDate (c : Course σ) : Prop :=
  ∀ now, c.service.published.Precedes (c.service.loop.snapshot c.service.queue now)

theorem UpToDate.record {c : Course σ} (h : c.UpToDate) (i : SampleInput) :
    (c.record i).UpToDate := by
  intro now
  refine (h now).trans ?_
  exact { Snapshot.Precedes.refl (c.service.loop.snapshot c.service.queue now) with
    ingestionErrors_le := c.service.queue.errors_le_record i
    droppedSamples_le := c.service.queue.dropped_le_record i }

/-- Counters have grown since the last publication, and they are what is published now. -/
theorem UpToDate.tick {c : Course σ} (h : c.UpToDate) (actuator : Actuator σ) (clock : TickClock) :
    (c.tick actuator clock).UpToDate ∧
      c.service.published.Precedes (c.tick actuator clock).service.published := by
  have hticked := (h clock.publish).trans (c.service.loop.precedes_tick c.service.queue
    clock.publish clock c.service.queue.waiting
    (actuator.applyBoth c.port (c.service.regulate clock).1.loop.calls).2)
  exact ⟨fun now => ControlLoop.precedes_later _ _ clock.publish now, hticked⟩

theorem UpToDate.run {c : Course σ} (h : c.UpToDate) (actuator : Actuator σ)
    (actions : List Action) : (c.run actuator actions).UpToDate ∧
      c.service.published.Precedes (c.run actuator actions).service.published := by
  refine run_induction (P := fun d => d.UpToDate ∧
    c.service.published.Precedes d.service.published) ⟨h, .refl _⟩ ?_ ?_ ?_ actions
  · exact fun _ i hd => ⟨hd.1.record i, hd.2⟩
  · intro d clock hd
    obtain ⟨hnext, hlater⟩ := hd.1.tick actuator clock
    exact ⟨hnext, hd.2.trans hlater⟩
  · exact fun _ hd => hd

theorem upToDate_ofSettings (s : Settings) (actuator : Actuator σ) (port : σ)
    (actions : List Action) : (ofSettings s actuator port actions).UpToDate := by
  have hstart : (begin (.start s) port).UpToDate := by
    intro now
    constructor
    · exact Nat.zero_le _
    · rintro v ⟨⟩
    · intro d
      cases d <;> exact Nat.zero_le _
    · intro d
      cases d <;> exact Nat.zero_le _
    · exact Nat.zero_le _
    · exact Nat.zero_le _
  exact (hstart.run actuator actions).1

theorem published_of_no_tick (s : Settings) (actuator : Actuator σ) (port : σ)
    {actions : List Action} (h : ∀ a ∈ actions, a.isTick = false) :
    (ofSettings s actuator port actions).service.published = .empty s.windowCapacity := by
  induction actions using List.reverseRecOn with
  | nil => rfl
  | append_singleton actions a ih =>
    have hlast : a.isTick = false := h a (by simp)
    have hbefore := ih fun b hb => h b (List.mem_append_left _ hb)
    rw [ofSettings, run_concat]
    cases a with
    | record i => exact hbefore
    | tick clock => cases hlast
    | stop => exact hbefore

/-- From accepted settings on, whatever samples are handed in and answers the calls get, the
snapshot that a tick publishes tells of that tick and all before it, with figures that fit together;
later snapshots never show a smaller counter. Before the first tick the empty snapshot is served. -/
theorem coherent_ofSettings (s : Settings) (h : s.validate = .ok ()) (actuator : Actuator σ)
    (port : σ) (actions : List Action) :
    Service.new s = .ok (.start s) ∧
      (Action.stop ∉ actions → ∀ clock c,
        c = ofSettings s actuator port (actions ++ [.tick clock]) →
        c.Coherent s (actions.countP Action.isTick + 1)) ∧
      ((∀ a ∈ actions, a.isTick = false) →
        (ofSettings s actuator port actions).service.published = .empty s.windowCapacity) ∧
      ∀ later, (ofSettings s actuator port actions).service.published.Precedes
        (ofSettings s actuator port (actions ++ later)).service.published := by
  have hs := s.validate_eq_ok_iff.mp h
  refine ⟨Service.new_eq_ok h, ?_, published_of_no_tick s actuator port, fun later => ?_⟩
  · rintro hstop clock c rfl
    have hticked : Action.stop ∉ actions ++ [.tick clock] := by simpa using hstop
    have hrecords := records_ofSettings hs actuator port hticked
    have hseen := hasSeen_ofSettings hs actuator port (actions ++ [.tick clock])
    rw [List.countP_append] at hrecords
    rw [ofSettings_concat_tick s actuator port hstop] at hrecords hseen ⊢
    exact coherent_of_records hs clock.publish rfl hseen hrecords (Nat.succ_pos _)
      (RateController.phase_tick_ne_backoff _ _ _)
  · rw [ofSettings, ofSettings, run_append]
    exact ((upToDate_ofSettings s actuator port actions).run actuator later).2

/-- The third tick, with an uplink whose calls all fail. -/
theorem coherent_ofSettings_standard :
    Settings.standard.validate = .ok () ∧
      (ofSettings .standard .recording ⟨[], ⟨true, false⟩⟩
        ([.tick (.steady .start .start), .record (.nanos 5), .record (.nanos 0),
          .tick (.steady ⟨7⟩ ⟨3⟩)] ++ [.tick (.steady ⟨9⟩ ⟨9⟩)])).Coherent .standard 3 := by
  have h : Settings.standard.validate = .ok () := rfl
  have hstop : Action.stop ∉ [.tick (.steady .start .start), .record (.nanos 5),
      .record (.nanos 0), .tick (.steady ⟨7⟩ ⟨3⟩)] := by simp
  exact ⟨h, (coherent_ofSettings .standard h .recording _ _).2.1 hstop _ _ rfl⟩

end Course
end AdaptiveShaper
