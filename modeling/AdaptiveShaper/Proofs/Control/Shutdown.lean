import AdaptiveShaper.Proofs.Control.Accounting
import AdaptiveShaper.Proofs.Control.Pace
import AdaptiveShaper.Shaper.Actuator

/-!
# Shutting a run down

The switch is looked at between ticks only. Once it is found on, or let go, the run is over and
makes no further call; a tick that was begun before is completed first.
-/

namespace AdaptiveShaper

/-- Whether a move may end a run. -/
def Move.asks {σ : Type} : Move σ → Bool
  | .send value => value
  | .letGo => true
  | .join => true
  | _ => false

namespace Run

variable {σ : Type} {actuator : Actuator σ} {r next : Run (σ × List Call)} {begun : Nat}

/-! ## After the end -/

/-- The run `q` is over and has come no further than `r`. -/
structure Resting (r q : Run (σ × List Call)) : Prop where
  stage_eq : q.stage = .finished
  calls_eq : q.calls = r.calls
  published_eq : q.service.published = r.service.published

theorem step?_finished {r : Run σ} (hs : r.stage = .finished) (actuator : Actuator σ)
    (target : Nat) : r.step? actuator target = none := by
  unfold step?
  rw [hs]

theorem send_finished {r : Run σ} (hs : r.stage = .finished) (value : Bool) :
    (r.send value).1 = r := by
  simp [Run.send, hs, Stage.isFinished]

theorem Resting.setTime {q : Run (σ × List Call)} (h : Resting r q) (time : Nat) :
    Resting r (q.setTime time) :=
  ⟨h.stage_eq, h.calls_eq, h.published_eq⟩

theorem Resting.move {q : Run (σ × List Call)} (h : Resting r q) (m : Move σ) :
    Resting r (q.move actuator.logged m.logged) := by
  have ⟨hs, hcalls, hpublished⟩ := h
  cases m with
  | sleep ms =>
    rw [Move.logged, move_sleep, drive_of_none (step?_finished hs actuator.logged _)]
    exact h.setTime _
  | turn target =>
    change Resting r (q.turn actuator.logged target)
    rw [Run.turn, step?_finished hs]
    exact ⟨hs, hcalls, hpublished⟩
  | record input => exact ⟨hs, hcalls, hpublished⟩
  | advance nanos => exact ⟨hs, hcalls, hpublished⟩
  | retune change => exact ⟨hs, hcalls, hpublished⟩
  | send value =>
    change Resting r (q.send value).1
    rw [send_finished hs]
    exact ⟨hs, hcalls, hpublished⟩
  | letGo => exact ⟨hs, hcalls, hpublished⟩
  | join =>
    rw [Move.logged, move_join, send_finished hs, await_finished hs]
    exact ⟨hs, hcalls, hpublished⟩

theorem Resting.play {q : Run (σ × List Call)} (h : Resting r q) (moves : List (Move σ)) :
    Resting r (q.play actuator.logged (moves.map Move.logged)) := by
  refine play_induction (fun q m hm hq => ?_) h
  obtain ⟨m, _, rfl⟩ := List.mem_map.mp hm
  exact hq.move m

/-! ## Before the end -/

/-- A run that goes on and has not been told to stop. -/
structure Unasked (r : Run σ) : Prop where
  isFinished_eq : r.stage.isFinished = false
  requested_eq : r.shutdown.requested = false

/-- A run that has not been told to stop takes every step but the last. -/
theorem Unasked.step {actuator : Actuator σ} {r next : Run σ} (h : r.Unasked)
    (hstep : LoopStep actuator r next) : next.Unasked := by
  cases hstep with
  | begin hs => exact ⟨rfl, h.requested_eq⟩
  | close hs hrequested =>
    rw [h.requested_eq] at hrequested
    cases hrequested
  | tick hs _ => exact ⟨rfl, h.requested_eq⟩
  | @receive p hs =>
    refine ⟨?_, by rw [shutdown_receive, h.requested_eq]⟩
    cases hp : p.direction with
    | uplink =>
      obtain ⟨q, hq, _⟩ := stage_receive_uplink actuator r hp
      rw [hq]
      rfl
    | downlink =>
      rw [stage_receive_downlink actuator r hp]
      rfl

theorem Unasked.steps {actuator : Actuator σ} {r next : Run σ} (h : r.Unasked)
    (hsteps : LoopSteps actuator r next) : next.Unasked :=
  hsteps.induction (fun _ _ hstep hr => hr.step hstep) h

theorem Unasked.send_false {r : Run σ} (hstage : r.stage.isFinished = false)
    (hdropped : r.shutdown.dropped = false) : (r.send false).1.Unasked := by
  rw [Run.send, hstage, hdropped]
  exact ⟨hstage, by simp [Shutdown.requested, hdropped]⟩

theorem Unasked.dropped_eq {r : Run σ} (h : r.Unasked) : r.shutdown.dropped = false := by
  have hrequested := h.requested_eq
  rw [Shutdown.requested, Bool.or_eq_false_iff] at hrequested
  exact hrequested.2

theorem Unasked.setTime {r : Run σ} (h : r.Unasked) (time : Nat) : (r.setTime time).Unasked :=
  ⟨h.isFinished_eq, h.requested_eq⟩

theorem Unasked.move {actuator : Actuator σ} {r : Run σ} (h : r.Unasked) {m : Move σ}
    (hm : m.asks = false) : (r.move actuator m).Unasked := by
  cases m with
  | sleep ms =>
    rw [move_sleep]
    exact (h.steps (loopSteps_drive actuator _ r)).setTime _
  | turn target => exact h.steps (loopSteps_turn actuator target r)
  | record input => exact ⟨h.isFinished_eq, h.requested_eq⟩
  | advance nanos => exact ⟨h.isFinished_eq, h.requested_eq⟩
  | retune change => exact ⟨h.isFinished_eq, h.requested_eq⟩
  | send value =>
    cases value with
    | false => exact .send_false h.isFinished_eq h.dropped_eq
    | true => cases hm
  | letGo => cases hm
  | join => cases hm

theorem Unasked.play {actuator : Actuator σ} {r : Run σ} (h : r.Unasked) {moves : List (Move σ)}
    (hmoves : ∀ m ∈ moves, m.asks = false) : (r.play actuator moves).Unasked :=
  play_induction (fun _ m hm hq => hq.move (hmoves m hm)) h

/-! ## Completing the tick in progress -/

/-- The run `q` is over, and since `r` it has published the tick in progress and nothing else. -/
structure Completes (r q : Run (σ × List Call)) : Prop where
  stage_eq : q.stage = .finished
  ticks_eq : q.service.published.ticks = r.service.published.ticks + r.stage.ticksOpen
  length_calls : q.calls.length = 2 * q.service.published.ticks

theorem Completes.setTime {q : Run (σ × List Call)} (h : Completes r q) (time : Nat) :
    Completes r (q.setTime time) :=
  ⟨h.stage_eq, h.ticks_eq, h.length_calls⟩

theorem Paced.length_calls_finished (h : r.Paced begun) (hs : r.stage = .finished) :
    r.calls.length = 2 * r.service.published.ticks := by
  rw [h.length_calls, hs]
  rfl

theorem Paced.completes_self (h : r.Paced begun) (hs : r.stage = .finished) : Completes r r := by
  refine ⟨hs, ?_, h.length_calls_finished hs⟩
  rw [hs]
  rfl

theorem Paced.completes_close (h : r.Paced begun) {due : Nat} (hs : r.stage = .idle due) :
    Completes r r.close.1 := by
  refine ⟨rfl, ?_, (h.close hs).length_calls_finished rfl⟩
  rw [hs]
  rfl

theorem Paced.completes_begin_close (h : r.Paced begun) (hs : r.stage = .unstarted) :
    Completes r r.begin.1.close.1 := by
  obtain ⟨hstage, hticks, hcalls⟩ := (h.begin hs).completes_close rfl
  refine ⟨hstage, hticks.trans ?_, hcalls⟩
  rw [hs]
  rfl

theorem Completes.of_receive {q : Run (σ × List Call)} (h : r.Paced begun) {p : Pending}
    (hs : r.stage = .applying p) (hq : Completes (r.receive actuator.logged p).1 q) :
    Completes r q :=
  ⟨hq.stage_eq, hq.ticks_eq.trans (ticksOpen_receive h hs), hq.length_calls⟩

theorem drive_idle {due target : Nat} (hs : r.stage = .idle due)
    (h : r.shutdown.requested = true) (ht : r.time < target) :
    (r.drive actuator.logged target).1 = r.close.1 := by
  have hstep : r.step? actuator.logged target = some r.close := by
    unfold step?
    rw [hs]
    exact if_pos ⟨ht, h⟩
  have hend : r.close.1.drive actuator.logged target = (r.close.1, []) :=
    drive_of_none (step?_finished rfl actuator.logged target)
  rw [drive_of_some hstep, hend]

/-- A run that is told to stop ends, if it is given time enough. -/
theorem completes_drive (actuator : Actuator σ) (r : Run (σ × List Call)) (h : r.Paced begun)
    (hrequested : r.shutdown.requested = true) :
    ∃ bound, ∀ target, bound < target → Completes r (r.drive actuator.logged target).1 := by
  cases hs : r.stage with
  | finished =>
    refine ⟨0, fun target _ => ?_⟩
    rw [drive_of_none (step?_finished hs actuator.logged target)]
    exact h.completes_self hs
  | idle due =>
    refine ⟨r.time, fun target ht => ?_⟩
    rw [drive_idle hs hrequested ht]
    exact h.completes_close hs
  | unstarted =>
    refine ⟨r.time, fun target ht => ?_⟩
    have hidle : (r.begin.1.drive actuator.logged target).1 = r.begin.1.close.1 :=
      drive_idle rfl hrequested ht
    rw [drive_of_some (step?_unstarted hs actuator ht), hidle]
    exact h.completes_begin_close hs
  | applying p =>
    have hnext : (r.receive actuator.logged p).1.shutdown.requested = true := by
      rwa [shutdown_receive]
    -- the reply may arrive late, and the second call may take its time as well
    obtain ⟨bound, hbound⟩ := completes_drive actuator _ (h.receive hs) hnext
    refine ⟨max (max r.time p.readyAt) bound, fun target ht => ?_⟩
    rw [drive_of_some (step?_applying hs actuator (by omega))]
    exact (hbound target (by omega)).of_receive h hs
termination_by r.stage.rank
decreasing_by
  rw [hs]
  exact rank_receive_lt _ r p

theorem completes_await (actuator : Actuator σ) (r : Run (σ × List Call)) (h : r.Paced begun) :
    Completes r (r.await actuator.logged).1 := by
  cases hs : r.stage with
  | finished =>
    rw [await_finished hs]
    exact h.completes_self hs
  | idle due =>
    rw [await_idle hs]
    exact h.completes_close hs
  | unstarted =>
    rw [await_unstarted hs]
    exact h.completes_begin_close hs
  | applying p =>
    rw [await_applying hs]
    exact (completes_await actuator _ (h.receive hs)).of_receive h hs
termination_by r.stage.rank
decreasing_by
  rw [hs]
  exact rank_receive_lt _ r p

theorem Paced.completes_sleep (h : r.Paced begun) (hrequested : r.shutdown.requested = true) :
    ∃ least, ∀ ms, least ≤ ms → Completes r (r.move actuator.logged (.sleep ms)) := by
  obtain ⟨bound, hbound⟩ := completes_drive actuator r h hrequested
  refine ⟨bound + 1, fun ms hms => ?_⟩
  rw [move_sleep]
  exact (hbound (r.time + ms * 1_000_000) (by omega)).setTime _

theorem Paced.completes_join (h : r.Paced begun) : Completes r (r.move actuator.logged .join) := by
  obtain ⟨hstage, hticks, hcalls⟩ := completes_await actuator (r.send true).1 (h.send true)
  rw [move_join]
  refine ⟨hstage, hticks.trans ?_, hcalls⟩
  unfold Run.send
  split <;> rfl

theorem Paced.ticks_sleep (h : r.Paced begun) (hgoes : r.stage ≠ .finished)
    (hrequested : r.shutdown.requested = false) (actuator : Actuator σ) :
    ∃ least, ∀ ms, least ≤ ms →
      r.service.published.ticks < (r.move actuator.logged (.sleep ms)).service.published.ticks ∧
        2 * r.service.published.ticks + 2 ≤ (r.move actuator.logged (.sleep ms)).calls.length := by
  obtain ⟨bound, hbound⟩ := h.publishes_next hgoes hrequested actuator
  refine ⟨bound + 1, fun ms hms => ?_⟩
  have hlater : (r.move actuator.logged (.sleep ms)).Paced begun := h.move (.sleep ms)
  have hticks : r.service.published.ticks + 1 ≤
      (r.move actuator.logged (.sleep ms)).service.published.ticks := by
    rw [move_sleep, service_setTime]
    exact hbound _ (by omega)
  have hcalls := hlater.length_calls
  omega

/-- A run that ends has published the ticks it had begun at any earlier time. -/
theorem Paced.publishes_play (h : r.Paced begun) (later : List (Move σ))
    (hend : (r.play actuator.logged (later.map Move.logged)).stage = .finished) :
    r.service.published.ticks + r.stage.ticksOpen ≤
      (r.play actuator.logged (later.map Move.logged)).service.published.ticks := by
  have hnow : r.Paced (r.service.published.ticks + r.stage.ticksOpen) :=
    ⟨h.alternating, h.published_eq, h.length_calls, h.attached_eq, Nat.le_refl _⟩
  have hlater : (r.play actuator.logged (later.map Move.logged)).Paced _ := hnow.play later
  have hbegun := hlater.begun_le
  rw [hend] at hbegun
  exact hbegun

/-! ## Whole scripts -/

/-- What a script finds when it looks at a run. -/
structure Orderly (actuator : Actuator σ) (r : Run (σ × List Call)) : Prop where
  alternating : Alternating r.calls
  ticks_le_calls : 2 * r.service.published.ticks ≤ r.calls.length
  calls_le_ticks : r.calls.length ≤ 2 * r.service.published.ticks + 2
  /-- Between ticks a run that is told to stop makes no call, and ends once it has begun. -/
  observes : r.shutdown.requested = true → r.stage.ticksOpen = 0 →
    ∀ target next events, r.step? actuator.logged target = some (next, events) →
      next.calls = r.calls ∧ (r.stage ≠ .unstarted → next.stage = .finished)
  /-- Whatever comes, no tick in progress is cut off. -/
  publishes : ∀ later : List (Move σ),
    (r.play actuator.logged (later.map Move.logged)).stage = .finished →
      r.service.published.ticks + r.stage.ticksOpen ≤
        (r.play actuator.logged (later.map Move.logged)).service.published.ticks
  /-- Told to stop, a run completes the tick in progress and ends. -/
  completes : r.shutdown.requested = true →
    ∃ least, ∀ ms, least ≤ ms → Completes r (r.move actuator.logged (.sleep ms))
  joins : Completes r (r.move actuator.logged .join)
  /-- Not told to stop, a run makes its next tick, with both its calls. -/
  ticks : r.stage ≠ .finished → r.shutdown.requested = false →
    ∃ least, ∀ ms, least ≤ ms →
      r.service.published.ticks < (r.move actuator.logged (.sleep ms)).service.published.ticks ∧
        2 * r.service.published.ticks + 2 ≤ (r.move actuator.logged (.sleep ms)).calls.length
  ended : r.stage = .finished → r.calls.length = 2 * r.service.published.ticks
  /-- After the end nothing moves any more, and valid samples are refused. -/
  rests : r.stage = .finished → ∀ later : List (Move σ),
    Resting r (r.play actuator.logged (later.map Move.logged))
  stopped : r.stage = .finished → ∀ i d, i.read = .ok d →
    (r.service.queue.record i).outcome = .error .stopped
  /-- Putting the switch off ends nothing. -/
  continues : r.stage ≠ .finished → r.shutdown.dropped = false →
    ∀ later : List (Move σ), (∀ m ∈ later, m.asks = false) →
      ((r.send false).1.play actuator.logged (later.map Move.logged)).stage ≠ .finished

theorem isFinished_eq_false_iff (stage : Stage) :
    stage.isFinished = false ↔ stage ≠ .finished := by
  cases stage <;> simp [Stage.isFinished]

theorem asks_logged (m : Move σ) : m.logged.asks = m.asks := by cases m <;> rfl

theorem observes_step (hrequested : r.shutdown.requested = true) (hopen : r.stage.ticksOpen = 0)
    (hstep : LoopStep actuator.logged r next) :
    next.calls = r.calls ∧ (r.stage ≠ .unstarted → next.stage = .finished) := by
  cases hstep with
  | begin hs => exact ⟨rfl, fun hne => absurd hs hne⟩
  | close hs _ => exact ⟨rfl, fun _ => rfl⟩
  | tick hs hoff =>
    rw [hrequested] at hoff
    cases hoff
  | receive hs =>
    rw [hs] at hopen
    cases hopen

theorem Paced.orderly (h : r.Paced begun) (actuator : Actuator σ) : r.Orderly actuator where
  alternating := h.alternating
  ticks_le_calls := by
    rw [h.length_calls]
    omega
  calls_le_ticks := by
    rw [h.length_calls]
    have hmade := r.stage.callsMade_le
    omega
  observes hrequested hopen _ _ _ hstep :=
    observes_step hrequested hopen (loopStep_of_step? hstep)
  publishes later hend := h.publishes_play later hend
  completes hrequested := h.completes_sleep hrequested
  joins := h.completes_join
  ticks hgoes hrequested := h.ticks_sleep hgoes hrequested actuator
  ended hs := h.length_calls_finished hs
  rests hs later := (Resting.mk hs rfl rfl).play later
  stopped hs i d hread := by
    have hdetached : r.service.queue.attached = false := by
      rw [h.attached_eq, hs]
      rfl
    rw [r.service.queue.record_of_ok hread, IngestQueue.enqueue_of_detached hdetached]
  continues hs hdropped later hlater := by
    have hunasked := Unasked.send_false ((isFinished_eq_false_iff _).mpr hs) hdropped
    apply (isFinished_eq_false_iff _).mp
    apply (hunasked.play _).isFinished_eq
    intro m hm
    obtain ⟨m', hm', rfl⟩ := List.mem_map.mp hm
    rw [asks_logged, hlater m' hm']

/-- From accepted settings on, whatever a script does and whenever it looks: the calls alternate
between the directions, and there are two for each published tick and at most two more. Until it is
told to stop a run goes on to tick. Then it completes the tick in progress, makes no other call and
ends; at its end there are exactly two calls for each tick. The log that shows the calls leaves the run as it is. -/
theorem orderly_play_start (s : Settings) (h : s.validate = .ok ()) (actuator : Actuator σ)
    (port : σ) (moves : List (Move σ)) :
    Service.new s = .ok (.start s) ∧
      ((Run.new (.start s) (port, [])).play actuator.logged (moves.map Move.logged)).forget =
        (Run.new (.start s) port).play actuator moves ∧
      ((Run.new (.start s) (port, [])).play actuator.logged
        (moves.map Move.logged)).Orderly actuator :=
  ⟨Service.new_eq_ok h, forget_play actuator _ moves, ((Paced.new s port).play moves).orderly _⟩

/-- The switch is put on and off again while a slow call is on its way, and let go later. -/
theorem orderly_play_start_standard :
    Settings.standard.validate = .ok () ∧
      Completes
        ((Run.new (.start .standard) (Scripted.empty, [])).play Actuator.scripted.logged
          ([.retune fun port => { port with delayMs := 40 }, .sleep 30, .send true, .send false,
            .record (.nanos 5), .sleep 600, .letGo].map Move.logged))
        (((Run.new (.start .standard) (Scripted.empty, [])).play Actuator.scripted.logged
          ([.retune fun port => { port with delayMs := 40 }, .sleep 30, .send true, .send false,
            .record (.nanos 5), .sleep 600, .letGo].map Move.logged)).move
          Actuator.scripted.logged .join) := by
  have h : Settings.standard.validate = .ok () := rfl
  exact ⟨h, (orderly_play_start .standard h .scripted .empty _).2.2.joins⟩

end Run
end AdaptiveShaper
