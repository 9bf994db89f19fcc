import AdaptiveShaper.Proofs.Control.Course
import AdaptiveShaper.Proofs.Control.Script

/-!
# The pace of the calls

A tick makes its two calls and then publishes, and nothing interrupts it. So the calls of a run
alternate between the directions, and between ticks there are two for each tick published. Unless it
is told to stop, a run that is given time enough publishes one tick more.
-/

namespace AdaptiveShaper

/-- How many calls the tick in progress has made. -/
def Stage.callsMade : Stage → Nat
  | .applying p => match p.direction with
    | .uplink => 1
    | .downlink => 2
  | _ => 0

/-- How many ticks are in progress. -/
def Stage.ticksOpen : Stage → Nat
  | .applying _ => 1
  | _ => 0

theorem Stage.callsMade_le (stage : Stage) : stage.callsMade ≤ 2 := by
  cases stage with
  | applying p =>
    unfold callsMade
    simp only
    split <;> omega
  | _ => exact Nat.zero_le _

theorem Stage.ticksOpen_le (stage : Stage) : stage.ticksOpen ≤ 1 := by
  cases stage <;> simp [ticksOpen]

/-- Calls for the uplink and the downlink by turns. -/
def Alternating (calls : List Call) : Prop :=
  ∀ i (h : i < calls.length),
    calls[i].setpoint.direction = if i % 2 = 0 then .uplink else .downlink

theorem Alternating.concat {calls : List Call} {c : Call} (h : Alternating calls)
    (hc : c.setpoint.direction = if calls.length % 2 = 0 then .uplink else .downlink) :
    Alternating (calls ++ [c]) := by
  intro i hi
  rw [List.length_append, List.length_singleton] at hi
  rcases Nat.lt_succ_iff_lt_or_eq.mp hi with hlt | rfl
  · rw [List.getElem_append_left hlt]
    exact h i hlt
  · rw [List.getElem_concat_length rfl]
    exact hc

theorem ControlLoop.direction_call (l : ControlLoop) (d : Direction) :
    (l.calls.get d).setpoint.direction = d := by cases d <;> rfl

namespace Run

variable {σ : Type} {actuator : Actuator σ} {r next : Run (σ × List Call)} {begun : Nat}

/-- How the calls of a run stand to its ticks, of which at least `begun` have been begun. -/
structure Paced (begun : Nat) (r : Run (σ × List Call)) : Prop where
  alternating : Alternating r.calls
  published_eq : r.service.published.ticks = r.service.loop.ticks
  length_calls : r.calls.length = 2 * r.service.published.ticks + r.stage.callsMade
  attached_eq : r.service.queue.attached = !r.stage.isFinished
  begun_le : begun ≤ r.service.published.ticks + r.stage.ticksOpen

theorem Paced.new (s : Settings) (port : σ) : (Run.new (.start s) (port, [])).Paced 0 where
  alternating := fun i hi => absurd hi (Nat.not_lt_zero i)
  published_eq := rfl
  length_calls := rfl
  attached_eq := rfl
  begun_le := Nat.zero_le _

/-- The pace is seen from the service, the calls and the stage alone. -/
theorem Paced.of_eq {q : Run (σ × List Call)} (h : r.Paced begun)
    (hservice : q.service = r.service) (hcalls : q.calls = r.calls) (hstage : q.stage = r.stage) :
    q.Paced begun := by
  obtain ⟨halternating, hpublished, hlength, hattached, hbegun⟩ := h
  rw [← hcalls] at halternating
  rw [← hservice] at hpublished
  rw [← hcalls, ← hservice, ← hstage] at hlength
  rw [← hservice, ← hstage] at hattached hbegun
  exact ⟨halternating, hpublished, hlength, hattached, hbegun⟩

theorem Paced.begin (h : r.Paced begun) (hs : r.stage = .unstarted) : r.begin.1.Paced begun := by
  obtain ⟨halternating, hpublished, hlength, hattached, hbegun⟩ := h
  rw [hs] at hlength hattached hbegun
  exact ⟨halternating, hpublished, hlength, hattached, hbegun⟩

theorem Paced.close (h : r.Paced begun) {due : Nat} (hs : r.stage = .idle due) :
    r.close.1.Paced begun := by
  obtain ⟨halternating, hpublished, hlength, _, hbegun⟩ := h
  rw [hs] at hlength hbegun
  exact ⟨halternating, hpublished, hlength, rfl, hbegun⟩

theorem Paced.beginTick (h : r.Paced begun) {due : Nat} (hs : r.stage = .idle due) :
    (r.beginTick actuator.logged due).1.Paced begun := by
  obtain ⟨halternating, hpublished, hlength, hattached, hbegun⟩ := h
  rw [hs] at hlength hattached hbegun
  change r.calls.length = 2 * r.service.published.ticks at hlength
  have hticks := r.service.loop.ticks_regulate (.steady r.clock r.clock) r.service.queue.drain.2
  have hlast : (r.beginTick actuator.logged due).1.calls.length =
      2 * r.service.published.ticks + 1 := by
    rw [← hlength]
    exact List.length_append
  refine ⟨halternating.concat ?_, hpublished.trans hticks.symm, hlast, hattached,
    Nat.le_succ_of_le hbegun⟩
  rw [ControlLoop.direction_call, hlength, if_pos (Nat.mul_mod_right 2 _)]

theorem receive_uplink {actuator : Actuator σ} {r : Run σ} {p : Pending}
    (hp : p.direction = .uplink) :
    (r.receive actuator p).1 = (r.note p).1.makeCall actuator .downlink
      (p.reply.count p.failures) p.drained p.applyStart p.nextDue := by
  simp only [receive, hp]

theorem receive_downlink {actuator : Actuator σ} {r : Run σ} {p : Pending}
    (hp : p.direction = .downlink) :
    (r.receive actuator p).1 = ((r.note p).1.closeTick p (p.reply.count p.failures)).1 := by
  simp only [receive, hp]

/-- Publishing makes of a tick in progress a published one. -/
theorem ticksOpen_receive (h : r.Paced begun) {p : Pending} (hs : r.stage = .applying p) :
    (r.receive actuator.logged p).1.service.published.ticks +
        (r.receive actuator.logged p).1.stage.ticksOpen =
      r.service.published.ticks + r.stage.ticksOpen := by
  rw [hs]
  cases hp : p.direction with
  | uplink =>
    rw [receive_uplink hp]
    rfl
  | downlink =>
    rw [receive_downlink hp, h.published_eq]
    rfl

theorem Paced.receive (h : r.Paced begun) {p : Pending} (hs : r.stage = .applying p) :
    (r.receive actuator.logged p).1.Paced begun := by
  have hopen : begun ≤ (r.receive actuator.logged p).1.service.published.ticks +
      (r.receive actuator.logged p).1.stage.ticksOpen := by
    rw [ticksOpen_receive h hs]
    exact h.begun_le
  obtain ⟨halternating, hpublished, hlength, hattached, _⟩ := h
  rw [hs] at hlength hattached
  cases hp : p.direction with
  | uplink =>
    have hmade : r.calls.length = 2 * r.service.published.ticks + 1 := by
      simpa [Stage.callsMade, hp] using hlength
    rw [receive_uplink hp] at hopen ⊢
    refine ⟨halternating.concat ?_, hpublished, ?_, hattached, hopen⟩
    · rw [ControlLoop.direction_call, hmade, if_neg (by omega)]
    · change (r.calls ++ [_]).length = 2 * r.service.published.ticks + 2
      rw [List.length_append, hmade]
      rfl
  | downlink =>
    have hmade : r.calls.length = 2 * r.service.published.ticks + 2 := by
      simpa [Stage.callsMade, hp] using hlength
    rw [receive_downlink hp] at hopen ⊢
    refine ⟨halternating, rfl, ?_, hattached, hopen⟩
    change r.calls.length = 2 * (r.service.loop.ticks + 1) + 0
    rw [hmade, hpublished]
    rfl

theorem Paced.step (h : r.Paced begun) (hstep : LoopStep actuator.logged r next) :
    next.Paced begun := by
  cases hstep with
  | begin hs => exact h.begin hs
  | close hs _ => exact h.close hs
  | tick hs _ => exact h.beginTick hs
  | receive hs => exact h.receive hs

theorem Paced.steps (h : r.Paced begun) (hsteps : LoopSteps actuator.logged r next) :
    next.Paced begun :=
  hsteps.induction (fun _ _ hstep hr => hr.step hstep) h

theorem Paced.send (h : r.Paced begun) (value : Bool) : (r.send value).1.Paced begun := by
  unfold Run.send
  split
  · exact h
  · exact h.of_eq rfl rfl rfl

theorem requested_send_true (r : Run σ) :
    (r.send true).1.shutdown.requested = true ∨ (r.send true).1.stage = .finished := by
  unfold Run.send
  split
  · next h =>
    rw [Bool.or_eq_true] at h
    rcases h with h | h
    · right
      cases hs : r.stage <;> simp_all [Stage.isFinished]
    · left
      simp [Shutdown.requested, h]
  · exact Or.inl rfl

theorem Paced.join (h : r.Paced begun) :
    ((r.send true).1.await actuator.logged).1.Paced begun := by
  rcases requested_send_true r with hrequested | hs
  · exact (h.send true).steps (loopSteps_await actuator.logged _ hrequested)
  · rw [await_finished hs]
    exact h.send true

theorem Paced.setTime (h : r.Paced begun) (time : Nat) : (r.setTime time).Paced begun :=
  h.of_eq rfl rfl rfl

theorem Paced.move (h : r.Paced begun) (m : Move σ) :
    (r.move actuator.logged m.logged).Paced begun := by
  cases m with
  | sleep ms =>
    rw [Move.logged, move_sleep]
    exact (h.steps (loopSteps_drive actuator.logged _ r)).setTime _
  | turn target => exact h.steps (loopSteps_turn actuator.logged target r)
  | record input =>
    exact ⟨h.alternating, h.published_eq, h.length_calls,
      (r.service.queue.attached_record input).trans h.attached_eq, h.begun_le⟩
  | advance nanos => exact h.of_eq rfl rfl rfl
  | retune change => exact h.of_eq rfl rfl rfl
  | send value => exact h.send value
  | letGo => exact h.of_eq rfl rfl rfl
  | join =>
    rw [Move.logged, move_join]
    exact h.join

theorem Paced.play (h : r.Paced begun) (moves : List (Move σ)) :
    (r.play actuator.logged (moves.map Move.logged)).Paced begun := by
  refine play_induction (fun q m hm hq => ?_) h
  obtain ⟨m, _, rfl⟩ := List.mem_map.mp hm
  exact hq.move m

/-! ## The next tick -/

theorem Paced.ticks_le_step (h : r.Paced begun) (hstep : LoopStep actuator.logged r next) :
    r.service.published.ticks ≤ next.service.published.ticks := by
  cases hstep with
  | begin _ => exact Nat.le_refl _
  | close _ _ => exact Nat.le_refl _
  | tick _ _ => exact Nat.le_refl _
  | @receive p hs =>
    have hsum : (r.receive actuator.logged p).1.service.published.ticks +
        (r.receive actuator.logged p).1.stage.ticksOpen = r.service.published.ticks + 1 := by
      rw [ticksOpen_receive h hs, hs]
      rfl
    have hopen := (r.receive actuator.logged p).1.stage.ticksOpen_le
    omega

theorem Paced.ticks_le_steps (h : r.Paced begun) (hsteps : LoopSteps actuator.logged r next) :
    r.service.published.ticks ≤ next.service.published.ticks := by
  induction hsteps with
  | refl => exact Nat.le_refl _
  | tail hbefore hlast ih => exact Nat.le_trans ih ((h.steps hbefore).ticks_le_step hlast)

/-- Given time enough, the run has published `n` ticks. -/
def Publishes (actuator : Actuator σ) (n : Nat) (r : Run (σ × List Call)) : Prop :=
  ∃ bound, ∀ target, bound < target →
    n ≤ (r.drive actuator.logged target).1.service.published.ticks

theorem Publishes.of_step {n bound : Nat} {x : Run (σ × List Call) × List LoopEvent}
    (hstep : ∀ target, bound < target → r.step? actuator.logged target = some x)
    (h : x.1.Publishes actuator n) : r.Publishes actuator n := by
  obtain ⟨later, hlater⟩ := h
  refine ⟨max bound later, fun target ht => ?_⟩
  rw [drive_of_some (hstep target (by omega))]
  exact hlater target (by omega)

theorem Paced.publishes_ticks (h : r.Paced begun) (actuator : Actuator σ) :
    r.Publishes actuator r.service.published.ticks :=
  ⟨0, fun target _ => h.ticks_le_steps (loopSteps_drive actuator.logged target r)⟩

theorem step?_unstarted (hs : r.stage = .unstarted) (actuator : Actuator σ) {target : Nat}
    (ht : r.time < target) : r.step? actuator.logged target = some r.begin := by
  unfold step?
  rw [hs]
  exact if_pos ht

theorem step?_applying {p : Pending} (hs : r.stage = .applying p) (actuator : Actuator σ)
    {target : Nat} (ht : max r.time p.readyAt < target) :
    r.step? actuator.logged target = some (r.receive actuator.logged p) := by
  unfold step?
  rw [hs]
  exact if_pos ht

theorem Paced.publishes_downlink (h : r.Paced begun) {p : Pending} (hs : r.stage = .applying p)
    (hp : p.direction = .downlink) (actuator : Actuator σ) :
    r.Publishes actuator (r.service.published.ticks + 1) := by
  have hclosed : (r.receive actuator.logged p).1.service.published.ticks =
      r.service.published.ticks + 1 := by
    rw [receive_downlink hp, h.published_eq]
    rfl
  have hlast : (r.receive actuator.logged p).1.Paced begun := h.receive hs
  have hnext := hlast.publishes_ticks actuator
  rw [hclosed] at hnext
  exact .of_step (fun _ ht => step?_applying hs actuator ht) hnext

theorem Paced.publishes_applying (h : r.Paced begun) {p : Pending} (hs : r.stage = .applying p)
    (actuator : Actuator σ) : r.Publishes actuator (r.service.published.ticks + 1) := by
  cases hp : p.direction with
  | downlink => exact h.publishes_downlink hs hp actuator
  | uplink =>
    obtain ⟨q, hq, hdirection, _⟩ := stage_receive_uplink actuator.logged r hp
    have hnext := (h.receive hs).publishes_downlink hq hdirection actuator
    have hsame : (r.receive actuator.logged p).1.service.published.ticks =
        r.service.published.ticks := by
      rw [receive_uplink hp]
      rfl
    rw [hsame] at hnext
    exact .of_step (fun _ ht => step?_applying hs actuator ht) hnext

theorem Paced.publishes_idle (h : r.Paced begun) {due : Nat} (hs : r.stage = .idle due)
    (hrequested : r.shutdown.requested = false) (actuator : Actuator σ) :
    r.Publishes actuator (r.service.published.ticks + 1) := by
  have hstep : ∀ target, max r.time (wake due) < target →
      r.step? actuator.logged target = some (r.beginTick actuator.logged due) := by
    intro target ht
    have hclose : ¬ (r.time < target ∧ r.shutdown.requested = true) := by simp [hrequested]
    unfold step?
    rw [hs]
    exact (if_neg hclose).trans (if_pos ht)
  exact .of_step hstep ((h.beginTick hs).publishes_applying rfl actuator)

/-- A run that goes on and is not told to stop publishes its next tick, if it is given time enough:
it is begun when it is due, and its two calls return after their delays. -/
theorem Paced.publishes_next (h : r.Paced begun) (hgoes : r.stage ≠ .finished)
    (hrequested : r.shutdown.requested = false) (actuator : Actuator σ) :
    r.Publishes actuator (r.service.published.ticks + 1) := by
  cases hs : r.stage with
  | finished => exact absurd hs hgoes
  | applying p => exact h.publishes_applying hs actuator
  | idle due => exact h.publishes_idle hs hrequested actuator
  | unstarted =>
    exact .of_step (fun _ ht => step?_unstarted hs actuator ht)
      ((h.begin hs).publishes_idle rfl hrequested actuator)

end Run
end AdaptiveShaper
