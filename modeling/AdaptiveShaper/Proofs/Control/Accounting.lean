import AdaptiveShaper.Proofs.Control.Course

/-!
# The books of the queue

Every sample that is handed in gets one answer, and each answer goes to one account. A sample that
was taken in is drained once, in the order of arrival, or waits to be drained; a tick leaves none
waiting.
-/

namespace AdaptiveShaper

/-! ## One call -/

namespace IngestQueue

variable {q : IngestQueue} {d : Span}

theorem enqueue_of_detached (h : q.attached = false) :
    q.enqueue d = ⟨{ q with nextSeq := q.nextSeq + 1 }, .error .stopped, []⟩ := by
  rw [enqueue, h]
  rfl

theorem enqueue_of_full (h : q.attached = true) (hfull : q.waiting.length = q.capacity) :
    q.enqueue d = ⟨{ q with nextSeq := q.nextSeq + 1, dropped := q.dropped + 1 },
      .error .queueFull, [.dropped q.nextSeq]⟩ := by
  have hroom : ¬ q.waiting.length < q.capacity := by omega
  simp [enqueue, h, hroom]

theorem enqueue_of_room (h : q.attached = true) (hroom : q.waiting.length < q.capacity) :
    q.enqueue d = ⟨{ q with
      nextSeq := q.nextSeq + 1, waiting := q.waiting ++ [⟨d, q.nextSeq⟩] }, .ok (), []⟩ := by
  simp [enqueue, h, hroom]

/-- What a call does with an input, depending on the input and on the queue. Fields that are not
named stay as they are. -/
structure RecordSpec (q : IngestQueue) (i : SampleInput) : Prop where
  /-- An invalid sample only moves the counter of errors. -/
  invalid : ∀ e, i.read = .error e → (q.record i).outcome = .error e ∧
    (q.record i).queue = { q with errors := q.errors + 1 }
  /-- A valid sample that finds the queue full takes a number and is counted as dropped. -/
  full : ∀ d, i.read = .ok d → q.attached = true → q.waiting.length = q.capacity →
    (q.record i).outcome = .error .queueFull ∧
    (q.record i).queue = { q with nextSeq := q.nextSeq + 1, dropped := q.dropped + 1 }
  /-- Otherwise it takes a number and waits behind the others. -/
  room : ∀ d, i.read = .ok d → q.attached = true → q.waiting.length ≠ q.capacity →
    (q.record i).outcome = .ok () ∧
    (q.record i).queue =
      { q with nextSeq := q.nextSeq + 1, waiting := q.waiting ++ [⟨d, q.nextSeq⟩] }
  /-- Once the loop is gone, a valid sample takes a number and is counted nowhere. -/
  stopped : ∀ d, i.read = .ok d → q.attached = false →
    (q.record i).outcome = .error .stopped ∧
    (q.record i).queue = { q with nextSeq := q.nextSeq + 1 }

theorem recordSpec (hle : q.waiting.length ≤ q.capacity) (i : SampleInput) : q.RecordSpec i where
  invalid e he := by
    rw [q.record_of_error he]
    exact ⟨rfl, rfl⟩
  full d hd hattached hfull := by
    rw [q.record_of_ok hd, enqueue_of_full hattached hfull]
    exact ⟨rfl, rfl⟩
  room d hd hattached hroom := by
    rw [q.record_of_ok hd, enqueue_of_room hattached (by omega)]
    exact ⟨rfl, rfl⟩
  stopped d hd hdetached := by
    rw [q.record_of_ok hd, enqueue_of_detached hdetached]
    exact ⟨rfl, rfl⟩

theorem record_cases (hle : q.waiting.length ≤ q.capacity) (i : SampleInput) :
    (∃ e, i.read = .error e ∧ (q.record i).outcome = .error e ∧
      (q.record i).queue = { q with errors := q.errors + 1 }) ∨
    ((q.record i).outcome = .error .queueFull ∧
      (q.record i).queue = { q with nextSeq := q.nextSeq + 1, dropped := q.dropped + 1 }) ∨
    (∃ d, i.read = .ok d ∧ (q.record i).outcome = .ok () ∧ q.waiting.length < q.capacity ∧
      (q.record i).queue =
        { q with nextSeq := q.nextSeq + 1, waiting := q.waiting ++ [⟨d, q.nextSeq⟩] }) ∨
    ((q.record i).outcome = .error .stopped ∧
      (q.record i).queue = { q with nextSeq := q.nextSeq + 1 }) := by
  have hspec := recordSpec hle i
  cases hread : i.read with
  | error e => exact .inl ⟨e, rfl, hspec.invalid e hread⟩
  | ok d =>
    right
    rcases Bool.eq_false_or_eq_true q.attached with hattached | hdetached
    · by_cases hfull : q.waiting.length = q.capacity
      · exact .inl (hspec.full d hread hattached hfull)
      · obtain ⟨hout, hqueue⟩ := hspec.room d hread hattached hfull
        exact .inr (.inl ⟨d, rfl, hout, by omega, hqueue⟩)
    · exact .inr (.inr (hspec.stopped d hread hdetached))

end IngestQueue

/-! ## Accounts -/

theorem Answer.sample?_of_error (i : SampleInput) (n : Nat) (e : SampleError) :
    (⟨i, n, .error e⟩ : Answer).sample? = none := by
  unfold sample?
  cases i.read <;> rfl

theorem Answer.sample?_of_ok {i : SampleInput} {d : Span} (h : i.read = .ok d) (n : Nat) :
    (⟨i, n, .ok ()⟩ : Answer).sample? = some ⟨d, n⟩ := by
  rw [sample?, h]

namespace Course

variable {σ : Type}

def tally (c : Course σ) (account : Account) : Nat :=
  c.answers.countP fun a => Account.ofOutcome a.outcome = account

/-- The counters agree with the accounts. Every valid sample takes a number, an invalid one takes
none. -/
structure Counted (c : Course σ) : Prop where
  errors_eq : c.service.queue.errors = c.tally .error
  dropped_eq : c.service.queue.dropped = c.tally .dropped
  nextSeq_eq : c.service.queue.nextSeq = c.tally .taken + c.tally .dropped + c.tally .stopped
  length_accepted : c.accepted.length = c.tally .taken

/-- Samples that were taken in are drained in order. While the loop is there, those that were not
drained yet wait in a queue with `capacity` places. -/
structure Ordered (capacity : Nat) (c : Course σ) : Prop where
  capacity_eq : c.service.queue.capacity = capacity
  length_le : c.service.queue.waiting.length ≤ capacity
  accepted_eq : c.service.isRunning = true → c.accepted = c.drained ++ c.service.queue.waiting
  drained_prefix : c.drained <+: c.accepted
  seq_increasing : c.accepted.Pairwise fun a b => a.seq < b.seq
  seq_lt : ∀ a ∈ c.accepted, a.seq < c.service.queue.nextSeq

/-- How a tick leads from `c` to `next`: the loop takes the samples that waited, each once and in
their order, and after it nothing waits and nothing that was taken in is left out. -/
structure Drains (clock : TickClock) (c next : Course σ) : Prop where
  takes : ∃ replies,
    next.service.loop = (c.service.loop.tick clock c.service.queue.waiting replies).1
  count_eq : (c.service.regulate clock).2.1 = c.service.queue.waiting.length
  drained_eq : next.drained = c.drained ++ c.service.queue.waiting
  complete : next.drained = next.accepted
  waiting_eq : next.service.queue.waiting = []

structure Balanced (capacity : Nat) (c : Course σ) : Prop extends
  Counted c, Ordered capacity c

variable {c : Course σ} {n : Nat}

theorem tally_record (c : Course σ) (i : SampleInput) {o : Except SampleError Unit}
    (ho : (c.service.queue.record i).outcome = o) (account : Account) :
    (c.record i).tally account =
      c.tally account + if Account.ofOutcome o = account then 1 else 0 := by
  simp [tally, record, List.countP_append, List.countP_singleton, ho]

theorem accepted_record (c : Course σ) (i : SampleInput) {o : Except SampleError Unit}
    (ho : (c.service.queue.record i).outcome = o) :
    (c.record i).accepted =
      c.accepted ++ (Answer.sample? ⟨i, c.service.queue.nextSeq, o⟩).toList := by
  simp only [accepted, record, List.filterMap_append, ho]
  cases h : Answer.sample? ⟨i, c.service.queue.nextSeq, o⟩ <;> simp [h]

theorem accepted_record_of_error (c : Course σ) (i : SampleInput) {e : SampleError}
    (ho : (c.service.queue.record i).outcome = .error e) : (c.record i).accepted = c.accepted := by
  rw [accepted_record c i ho, Answer.sample?_of_error, Option.toList_none, List.append_nil]

theorem accepted_record_of_ok (c : Course σ) {i : SampleInput} {d : Span} (h : i.read = .ok d)
    (ho : (c.service.queue.record i).outcome = .ok ()) :
    (c.record i).accepted = c.accepted ++ [⟨d, c.service.queue.nextSeq⟩] := by
  rw [accepted_record c i ho, Answer.sample?_of_ok h, Option.toList_some]

theorem Counted.record (h : c.Counted) (hle : c.service.queue.waiting.length ≤
    c.service.queue.capacity) (i : SampleInput) : (c.record i).Counted := by
  have herrors := h.errors_eq
  have hdropped := h.dropped_eq
  have hnextSeq := h.nextSeq_eq
  have haccepted := h.length_accepted
  have hstep : (c.record i).service.queue = (c.service.queue.record i).queue := rfl
  -- in each case one account grows by the new answer, and with it the counter that belongs to it
  rcases IngestQueue.record_cases hle i with ⟨e, hread, hout, hqueue⟩ | ⟨hout, hqueue⟩ |
    ⟨d, hread, hout, _, hqueue⟩ | ⟨hout, hqueue⟩
  · have htally := tally_record c i hout
    rw [SampleInput.ofOutcome_of_read hread] at htally
    constructor <;> simp [hstep, hqueue, htally, accepted_record_of_error c i hout] <;> omega
  · have htally := tally_record c i hout
    constructor <;> simp [hstep, hqueue, htally, accepted_record_of_error c i hout,
      Account.ofOutcome] <;> omega
  · have htally := tally_record c i hout
    constructor <;> simp [hstep, hqueue, htally, accepted_record_of_ok c hread hout,
      Account.ofOutcome] <;> omega
  · have htally := tally_record c i hout
    constructor <;> simp [hstep, hqueue, htally, accepted_record_of_error c i hout,
      Account.ofOutcome] <;> omega

theorem Ordered.refuse (h : c.Ordered n) {i : SampleInput} {e : SampleError}
    (hout : (c.service.queue.record i).outcome = .error e) {errors dropped nextSeq : Nat}
    (hqueue : (c.record i).service.queue =
      { c.service.queue with errors := errors, dropped := dropped, nextSeq := nextSeq })
    (hle : c.service.queue.nextSeq ≤ nextSeq) : (c.record i).Ordered n := by
  have haccepted := accepted_record_of_error c i hout
  constructor
  · rw [hqueue]
    exact h.capacity_eq
  · rw [hqueue]
    exact h.length_le
  · rw [isRunning_record, haccepted, hqueue]
    exact h.accepted_eq
  · rw [haccepted]
    exact h.drained_prefix
  · rw [haccepted]
    exact h.seq_increasing
  · intro a ha
    rw [haccepted] at ha
    rw [hqueue]
    exact Nat.lt_of_lt_of_le (h.seq_lt a ha) hle

/-- A sample that is taken in comes last and has a greater number than all before it. -/
theorem Ordered.take (h : c.Ordered n) {i : SampleInput} {d : Span} (hread : i.read = .ok d)
    (hout : (c.service.queue.record i).outcome = .ok ())
    (hroom : c.service.queue.waiting.length < c.service.queue.capacity)
    (hqueue : (c.record i).service.queue = { c.service.queue with
      nextSeq := c.service.queue.nextSeq + 1
      waiting := c.service.queue.waiting ++ [⟨d, c.service.queue.nextSeq⟩] }) :
    (c.record i).Ordered n := by
  have haccepted := accepted_record_of_ok c hread hout
  have hcapacity := h.capacity_eq
  constructor
  · rw [hqueue]
    exact hcapacity
  · rw [hqueue, List.length_append, List.length_singleton]
    omega
  · intro hrun
    rw [isRunning_record] at hrun
    rw [haccepted, hqueue, h.accepted_eq hrun, List.append_assoc]
    rfl
  · rw [haccepted]
    exact h.drained_prefix.trans (List.prefix_append _ _)
  · rw [haccepted, List.pairwise_append]
    refine ⟨h.seq_increasing, List.pairwise_singleton _ _, fun a ha b hb => ?_⟩
    rw [List.mem_singleton.mp hb]
    exact h.seq_lt a ha
  · intro a ha
    rw [haccepted, List.mem_append, List.mem_singleton] at ha
    rw [hqueue]
    rcases ha with ha | rfl
    · exact Nat.lt_succ_of_lt (h.seq_lt a ha)
    · exact Nat.lt_succ_self _

theorem Ordered.length_le_capacity (h : c.Ordered n) :
    c.service.queue.waiting.length ≤ c.service.queue.capacity := by
  rw [h.capacity_eq]
  exact h.length_le

theorem Ordered.record (h : c.Ordered n) (i : SampleInput) : (c.record i).Ordered n := by
  rcases IngestQueue.record_cases h.length_le_capacity i with
    ⟨e, _, hout, hqueue⟩ | ⟨hout, hqueue⟩ | ⟨d, hread, hout, hroom, hqueue⟩ | ⟨hout, hqueue⟩
  · exact h.refuse hout hqueue (Nat.le_refl _)
  · exact h.refuse hout hqueue (Nat.le_succ _)
  · exact h.take hread hout hroom hqueue
  · exact h.refuse hout hqueue (Nat.le_succ _)

theorem Ordered.drains (h : c.Ordered n) (hrun : c.service.isRunning = true)
    (actuator : Actuator σ) (clock : TickClock) : Drains clock c (c.tick actuator clock) where
  takes := ⟨_, rfl⟩
  count_eq := rfl
  drained_eq := rfl
  complete := (h.accepted_eq hrun).symm
  waiting_eq := rfl

/-- A tick moves all samples that wait to those that are drained. -/
theorem Ordered.tick (h : c.Ordered n) (hrun : c.service.isRunning = true) (actuator : Actuator σ)
    (clock : TickClock) : (c.tick actuator clock).Ordered n := by
  have hdrains := h.drains hrun actuator clock
  constructor
  · exact h.capacity_eq
  · rw [hdrains.waiting_eq]
    exact Nat.zero_le _
  · intro _
    rw [hdrains.waiting_eq, List.append_nil, hdrains.complete]
  · simp [hdrains.complete]
  · exact h.seq_increasing
  · exact h.seq_lt

/-- Samples that wait when the loop is stopped are lost. -/
theorem Ordered.stop (h : c.Ordered n) : c.stop.Ordered n where
  capacity_eq := h.capacity_eq
  length_le := Nat.zero_le _
  accepted_eq hrun := absurd hrun Bool.false_ne_true
  drained_prefix := h.drained_prefix
  seq_increasing := h.seq_increasing
  seq_lt := h.seq_lt

theorem Balanced.begin (s : Settings) (port : σ) :
    (begin (.start s) port).Balanced s.ingestQueueCapacity where
  errors_eq := rfl
  dropped_eq := rfl
  nextSeq_eq := rfl
  length_accepted := rfl
  capacity_eq := rfl
  length_le := Nat.zero_le _
  accepted_eq _ := rfl
  drained_prefix := List.prefix_refl _
  seq_increasing := List.Pairwise.nil
  seq_lt _ ha := absurd ha List.not_mem_nil

theorem Balanced.step (h : c.Balanced n) (actuator : Actuator σ) (a : Action) :
    (c.step actuator a).Balanced n := by
  obtain ⟨hcounted, hordered⟩ := h
  cases a with
  | record i => exact ⟨hcounted.record hordered.length_le_capacity i, hordered.record i⟩
  | tick clock =>
    simp only [Course.step]
    split
    · next hrun =>
      -- a tick moves no counter and answers no call
      have hkept : (c.tick actuator clock).Counted :=
        ⟨hcounted.errors_eq, hcounted.dropped_eq, hcounted.nextSeq_eq, hcounted.length_accepted⟩
      exact ⟨hkept, hordered.tick hrun actuator clock⟩
    · exact ⟨hcounted, hordered⟩
  | stop =>
    have hkept : c.stop.Counted :=
      ⟨hcounted.errors_eq, hcounted.dropped_eq, hcounted.nextSeq_eq, hcounted.length_accepted⟩
    exact ⟨hkept, hordered.stop⟩

theorem Balanced.run (h : c.Balanced n) (actuator : Actuator σ) (actions : List Action) :
    (c.run actuator actions).Balanced n := by
  induction actions generalizing c with
  | nil => exact h
  | cons a actions ih => exact ih (h.step actuator a)

/-! ## Whole courses -/

def Action.input? : Action → Option SampleInput
  | .record i => some i
  | .tick _ => none
  | .stop => none

theorem inputs_step (actuator : Actuator σ) (c : Course σ) (a : Action) :
    (c.step actuator a).answers.map Answer.input =
      c.answers.map Answer.input ++ [a].filterMap Action.input? := by
  cases a with
  | record i => exact List.map_append
  | tick clock =>
    simp only [step]
    split
    · exact (List.append_nil _).symm
    · exact (List.append_nil _).symm
  | stop => exact (List.append_nil _).symm

theorem inputs_run (actuator : Actuator σ) (c : Course σ) (actions : List Action) :
    (c.run actuator actions).answers.map Answer.input =
      c.answers.map Answer.input ++ actions.filterMap Action.input? := by
  induction actions using List.reverseRecOn with
  | nil => exact (List.append_nil _).symm
  | append_singleton actions a ih =>
    rw [run_concat, inputs_step, ih, List.filterMap_append, List.append_assoc]

theorem balanced_ofSettings (s : Settings) (actuator : Actuator σ) (port : σ)
    (actions : List Action) :
    (ofSettings s actuator port actions).Balanced s.ingestQueueCapacity :=
  (Balanced.begin s port).run actuator actions

theorem drains_ofSettings (s : Settings) (actuator : Actuator σ) (port : σ)
    {actions : List Action} (hstop : Action.stop ∉ actions) (clock : TickClock) :
    Drains clock (ofSettings s actuator port actions)
      (ofSettings s actuator port (actions ++ [.tick clock])) := by
  have hrunning := (isRunning_ofSettings s actuator port actions).mpr hstop
  rw [ofSettings_concat_tick s actuator port hstop clock]
  exact (balanced_ofSettings s actuator port actions).drains hrunning actuator clock

/-- From accepted settings on, whatever samples are handed in, ticks are made and when the loop is
stopped: every sample gets one answer, and the books of the queue are balanced. While the loop is
there, the samples taken in are those drained and those that wait, and each tick drains the latter
into the loop; each further call does to the queue what its input and the room in the queue ask for,
and nothing else. -/
theorem accounts_ofSettings (s : Settings) (h : s.validate = .ok ()) (actuator : Actuator σ)
    (port : σ) (actions : List Action) :
    Service.new s = .ok (.start s) ∧
      (ofSettings s actuator port actions).answers.map Answer.input =
        actions.filterMap Action.input? ∧
      (ofSettings s actuator port actions).Balanced s.ingestQueueCapacity ∧
      ((ofSettings s actuator port actions).service.queue.attached = true ↔
        Action.stop ∉ actions) ∧
      (Action.stop ∉ actions → (ofSettings s actuator port actions).tally .taken =
        (ofSettings s actuator port actions).drained.length +
          (ofSettings s actuator port actions).service.queue.waiting.length) ∧
      (Action.stop ∉ actions → ∀ clock, Drains clock (ofSettings s actuator port actions)
        (ofSettings s actuator port (actions ++ [.tick clock]))) ∧
      ∀ i, (ofSettings s actuator port actions).service.queue.RecordSpec i := by
  have hbalanced := balanced_ofSettings s actuator port actions
  have hrunning := isRunning_ofSettings s actuator port actions
  refine ⟨Service.new_eq_ok h, inputs_run actuator _ actions, hbalanced, hrunning, ?_,
    drains_ofSettings s actuator port, fun i => ?_⟩
  · intro hstop
    rw [← hbalanced.length_accepted, hbalanced.accepted_eq (hrunning.mpr hstop),
      List.length_append]
  · exact IngestQueue.recordSpec hbalanced.length_le_capacity i

/-- Two samples wait beside one that was refused, and a tick drains them; after the stop a sample is
refused as well. -/
theorem accounts_ofSettings_standard :
    Settings.standard.validate = .ok () ∧
      (ofSettings .standard .dryRun () ([.record (.nanos 5), .record (.nanos 0),
        .record (.text "9ns")] ++ [.tick (.steady .start .start)])).drained =
          [⟨.ofNanos 5, 0⟩, ⟨.ofNanos 9, 1⟩] ∧
      (ofSettings .standard .dryRun () [.record (.nanos 5), .record (.nanos 0),
        .tick (.steady .start .start), .stop, .record (.span .longest)]).Balanced 65536 := by
  have h : Settings.standard.validate = .ok () := rfl
  have hstop : Action.stop ∉ [.record (.nanos 5), .record (.nanos 0), .record (.text "9ns")] := by
    simp
  obtain ⟨_, _, _, _, _, hdrains, _⟩ := accounts_ofSettings .standard h .dryRun () _
  refine ⟨h, ?_, (accounts_ofSettings .standard h .dryRun () _).2.2.1⟩
  rw [(hdrains hstop (.steady .start .start)).drained_eq]
  rfl

end Course
end AdaptiveShaper
