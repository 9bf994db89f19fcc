import AdaptiveShaper.Control.Run
import AdaptiveShaper.Proofs.Ingest.Input
import Mathlib.Logic.Relation

/-!
# Scripts for a run

A script is what goes on around a run: time passes, samples are handed in, the clock moves, the
actuator changes its mood, the shutdown switch is moved or let go. It may look at the run after each
of its moves, and also while it sleeps, after any single step of the run.
-/

namespace AdaptiveShaper

/-- One thing that is done to a run with an actuator of state `σ`. -/
inductive Move (σ : Type) where
  | sleep (ms : Nat)
  /-- Time passes until the next step of the run, if there is one before `target`. -/
  | turn (target : Nat)
  | record (input : SampleInput)
  | advance (nanos : Int)
  | retune (change : σ → σ)
  | send (value : Bool)
  | letGo
  /-- The switch is put on and the end of the run awaited. -/
  | join

namespace Run

variable {σ : Type}

def turn (actuator : Actuator σ) (target : Nat) (r : Run σ) : Run σ :=
  ((r.step? actuator target).map Prod.fst).getD r

def record (r : Run σ) (input : SampleInput) : Run σ :=
  { r with service := { r.service with queue := (r.service.queue.record input).queue } }

def move (actuator : Actuator σ) (r : Run σ) : Move σ → Run σ
  | .sleep ms => (r.sleep actuator ms).1
  | .turn target => r.turn actuator target
  | .record input => r.record input
  | .advance nanos => { r with clock := r.clock.advance nanos }
  | .retune change => { r with actuator := change r.actuator }
  | .send value => (r.send value).1
  | .letGo => r.letGo
  | .join => ((r.send true).1.await actuator).1

def play (actuator : Actuator σ) (r : Run σ) (moves : List (Move σ)) : Run σ :=
  moves.foldl (move actuator) r

theorem play_induction {actuator : Actuator σ} {P : Run σ → Prop} {moves : List (Move σ)}
    (hmove : ∀ r, ∀ m ∈ moves, P r → P (r.move actuator m)) {r : Run σ} (h : P r) :
    P (r.play actuator moves) := by
  induction moves generalizing r with
  | nil => exact h
  | cons m moves ih =>
    exact ih (fun r m' hm' => hmove r m' (.tail m hm')) (hmove r m List.mem_cons_self h)

/-- The run at another time of its timer. -/
def setTime (r : Run σ) (time : Nat) : Run σ := { r with time := time }

@[simp] theorem service_setTime (r : Run σ) (time : Nat) :
    (r.setTime time).service = r.service := rfl

theorem move_sleep (actuator : Actuator σ) (r : Run σ) (ms : Nat) :
    r.move actuator (.sleep ms) =
      (r.drive actuator (r.time + ms * 1_000_000)).1.setTime (r.time + ms * 1_000_000) := by
  simp only [move, sleep, setTime]

theorem move_join (actuator : Actuator σ) (r : Run σ) :
    r.move actuator .join = ((r.send true).1.await actuator).1 := by
  simp only [move]

/-! ## The steps of a run -/

/-- A step that a run makes by itself. The switch decides only between ticks. -/
inductive LoopStep (actuator : Actuator σ) (r : Run σ) : Run σ → Prop where
  | begin (hstage : r.stage = .unstarted) : LoopStep actuator r r.begin.1
  | close {due : Nat} (hstage : r.stage = .idle due) (hrequested : r.shutdown.requested = true) :
    LoopStep actuator r r.close.1
  | tick {due : Nat} (hstage : r.stage = .idle due) (hrequested : r.shutdown.requested = false) :
    LoopStep actuator r (r.beginTick actuator due).1
  | receive {p : Pending} (hstage : r.stage = .applying p) :
    LoopStep actuator r (r.receive actuator p).1

abbrev LoopSteps (actuator : Actuator σ) : Run σ → Run σ → Prop :=
  Relation.ReflTransGen (LoopStep actuator)

variable {actuator : Actuator σ} {r next : Run σ} {target : Nat} {events : List LoopEvent}

theorem time_receive (actuator : Actuator σ) (r : Run σ) (p : Pending) :
    (r.receive actuator p).1.time = max r.time p.readyAt := by
  unfold receive
  simp only
  split <;> rfl

/-- What happens before a time is one of the steps, and time does not go on beyond that time. -/
theorem step?_spec (h : r.step? actuator target = some (next, events)) :
    LoopStep actuator r next ∧ (next.time = r.time ∨ next.time < target) := by
  unfold step? at h
  split at h
  · next hs =>
    split at h
    · obtain rfl : r.begin.1 = next := congrArg Prod.fst (Option.some.inj h)
      exact ⟨.begin hs, Or.inl rfl⟩
    · cases h
  · next due hs =>
    split at h
    · next hclose =>
      obtain rfl : r.close.1 = next := congrArg Prod.fst (Option.some.inj h)
      exact ⟨.close hs hclose.2, Or.inl rfl⟩
    · next hclose =>
      split at h
      · next hlt =>
        obtain rfl : (r.beginTick actuator due).1 = next := congrArg Prod.fst (Option.some.inj h)
        exact ⟨.tick hs (by simpa [show r.time < target by omega] using hclose), Or.inr hlt⟩
      · cases h
  · next p hs =>
    split at h
    · next hlt =>
      obtain rfl : (r.receive actuator p).1 = next := congrArg Prod.fst (Option.some.inj h)
      rw [time_receive]
      exact ⟨.receive hs, Or.inr hlt⟩
    · cases h
  · cases h

theorem loopStep_of_step? (h : r.step? actuator target = some (next, events)) :
    LoopStep actuator r next := (step?_spec h).1

theorem LoopSteps.induction {P : Run σ → Prop}
    (hstep : ∀ r next, LoopStep actuator r next → P r → P next)
    (hsteps : LoopSteps actuator r next) (h : P r) : P next := by
  induction hsteps with
  | refl => exact h
  | tail _ hlast ih => exact hstep _ _ hlast ih

theorem loopSteps_turn (actuator : Actuator σ) (target : Nat) (r : Run σ) :
    LoopSteps actuator r (r.turn actuator target) := by
  unfold turn
  cases h : r.step? actuator target with
  | none => exact Relation.ReflTransGen.refl
  | some x =>
    obtain ⟨next, events⟩ := x
    exact .single (loopStep_of_step? h)

theorem drive_of_none (h : r.step? actuator target = none) :
    r.drive actuator target = (r, []) := by
  rw [drive]
  split
  · rfl
  · next hsome => rw [h] at hsome; cases hsome

theorem drive_of_some {x : Run σ × List LoopEvent} (h : r.step? actuator target = some x) :
    (r.drive actuator target).1 = (x.1.drive actuator target).1 := by
  rw [drive]
  split
  · next hnone => rw [h] at hnone; cases hnone
  · next hsome =>
    rw [h] at hsome
    cases hsome
    rfl

theorem loopSteps_drive (actuator : Actuator σ) (target : Nat) (r : Run σ) :
    LoopSteps actuator r (r.drive actuator target).1 := by
  induction r using drive.induct actuator target with
  | case1 r h => rw [drive_of_none h]
  | case2 r next events h _ _ _ ih =>
    rw [drive_of_some h]
    exact .head (loopStep_of_step? h) ih

theorem await_finished (h : r.stage = .finished) : r.await actuator = (r, []) := by
  rw [await]
  split <;> simp_all

theorem await_idle {due : Nat} (h : r.stage = .idle due) : r.await actuator = r.close := by
  rw [await]
  split <;> simp_all

theorem await_unstarted (h : r.stage = .unstarted) :
    (r.await actuator).1 = r.begin.1.close.1 := by
  rw [await]
  split <;> simp_all

theorem await_applying {p : Pending} (h : r.stage = .applying p) :
    (r.await actuator).1 = ((r.receive actuator p).1.await actuator).1 := by
  rw [await]
  split <;> simp_all

theorem shutdown_receive (actuator : Actuator σ) (r : Run σ) (p : Pending) :
    (r.receive actuator p).1.shutdown = r.shutdown := by
  unfold receive
  simp only
  split <;> rfl

/-- A run that is told to stop ends by its own steps. -/
theorem loopSteps_await (actuator : Actuator σ) (r : Run σ) (h : r.shutdown.requested = true) :
    LoopSteps actuator r (r.await actuator).1 := by
  cases hs : r.stage with
  | finished => rw [await_finished hs]
  | idle due =>
    rw [await_idle hs]
    exact .single (.close hs h)
  | unstarted =>
    rw [await_unstarted hs]
    exact .head (.begin hs) (.single (.close rfl h))
  | applying p =>
    rw [await_applying hs]
    exact .head (.receive hs) (loopSteps_await actuator _ (by rwa [shutdown_receive]))
termination_by r.stage.rank
decreasing_by
  rw [hs]
  exact rank_receive_lt actuator r p

/-! ## A log of the calls -/

end Run

/-- The actuator with a log of its calls. -/
def Actuator.logged {σ : Type} (actuator : Actuator σ) : Actuator (σ × List Call) where
  apply state call :=
    let (next, reply) := actuator.apply state.1 call
    ((next, state.2 ++ [call]), reply)

def Move.logged {σ : Type} : Move σ → Move (σ × List Call)
  | .sleep ms => .sleep ms
  | .turn target => .turn target
  | .record input => .record input
  | .advance nanos => .advance nanos
  | .retune change => .retune fun state => (change state.1, state.2)
  | .send value => .send value
  | .letGo => .letGo
  | .join => .join

namespace Run

variable {σ : Type}

/-- The calls made so far, in order. -/
def calls (r : Run (σ × List Call)) : List Call := r.actuator.2

def forget (r : Run (σ × List Call)) : Run σ :=
  ⟨r.service, r.actuator.1, r.clock, r.time, r.shutdown, r.stage⟩

theorem forget_receive (actuator : Actuator σ) (r : Run (σ × List Call)) (p : Pending) :
    (r.receive actuator.logged p).1.forget = (r.forget.receive actuator p).1 := by
  unfold receive
  simp only
  split <;> rfl

theorem forget_step? (actuator : Actuator σ) (target : Nat) (r : Run (σ × List Call)) :
    (r.step? actuator.logged target).map (fun x => x.1.forget) =
      (r.forget.step? actuator target).map Prod.fst := by
  have hstage : r.forget.stage = r.stage := rfl
  have htime : r.forget.time = r.time := rfl
  have hshutdown : r.forget.shutdown = r.shutdown := rfl
  unfold step?
  rw [hstage]
  cases r.stage with
  | unstarted =>
    simp only [htime]
    split <;> rfl
  | idle due =>
    simp only [htime, hshutdown]
    split
    · rfl
    · split <;> rfl
  | applying p =>
    simp only [htime]
    split
    · exact congrArg some (forget_receive actuator r p)
    · rfl
  | finished => rfl

theorem forget_drive (actuator : Actuator σ) (target : Nat) (r : Run (σ × List Call)) :
    (r.drive actuator.logged target).1.forget = (r.forget.drive actuator target).1 := by
  induction r using drive.induct actuator.logged target with
  | case1 r h =>
    have hnone := forget_step? actuator target r
    rw [h] at hnone
    rw [drive_of_none h, drive_of_none (Option.map_eq_none_iff.mp hnone.symm)]
  | case2 r next events h _ _ _ ih =>
    have hsome := forget_step? actuator target r
    rw [h] at hsome
    obtain ⟨⟨last, told⟩, hlast, heq⟩ := Option.map_eq_some_iff.mp hsome.symm
    rw [drive_of_some h, drive_of_some hlast, ih]
    exact congrArg (fun x => (x.drive actuator target).1) heq.symm

theorem forget_turn (actuator : Actuator σ) (target : Nat) (r : Run (σ × List Call)) :
    (r.turn actuator.logged target).forget = r.forget.turn actuator target := by
  have hstep := forget_step? actuator target r
  unfold turn
  rw [← hstep]
  cases r.step? actuator.logged target with
  | none => rfl
  | some x => rfl

theorem forget_await (actuator : Actuator σ) (r : Run (σ × List Call)) :
    (r.await actuator.logged).1.forget = (r.forget.await actuator).1 := by
  cases hs : r.stage with
  | finished => rw [await_finished hs, await_finished (r := r.forget) hs]
  | idle due =>
    rw [await_idle hs, await_idle (r := r.forget) hs]
    rfl
  | unstarted =>
    rw [await_unstarted hs, await_unstarted (r := r.forget) hs]
    rfl
  | applying p =>
    rw [await_applying hs, await_applying (r := r.forget) hs, ← forget_receive]
    exact forget_await actuator _
termination_by r.stage.rank
decreasing_by
  rw [hs]
  exact rank_receive_lt _ r p

theorem forget_send (r : Run (σ × List Call)) (value : Bool) :
    (r.send value).1.forget = (r.forget.send value).1 := by
  have hstage : r.forget.stage = r.stage := rfl
  have hshutdown : r.forget.shutdown = r.shutdown := rfl
  unfold send
  rw [hstage, hshutdown]
  split <;> rfl

theorem forget_move (actuator : Actuator σ) (r : Run (σ × List Call)) (m : Move σ) :
    (r.move actuator.logged m.logged).forget = r.forget.move actuator m := by
  cases m with
  | sleep ms =>
    have hdrive := forget_drive actuator (r.time + ms * 1_000_000) r
    rw [Move.logged, move_sleep, move_sleep]
    exact congrArg (setTime · (r.time + ms * 1_000_000)) hdrive
  | turn target => exact forget_turn actuator target r
  | record input => rfl
  | advance nanos => rfl
  | retune change => rfl
  | send value => exact forget_send r value
  | letGo => rfl
  | join =>
    have hawait := forget_await actuator (r.send true).1
    rw [forget_send] at hawait
    rw [Move.logged, move_join, move_join]
    exact hawait

/-- The log changes nothing in a run. -/
theorem forget_play (actuator : Actuator σ) (r : Run (σ × List Call)) (moves : List (Move σ)) :
    (r.play actuator.logged (moves.map Move.logged)).forget = r.forget.play actuator moves := by
  induction moves generalizing r with
  | nil => rfl
  | cons m moves ih =>
    rw [play, play, List.map_cons, List.foldl_cons, List.foldl_cons, ← forget_move]
    exact ih (r.move actuator.logged m.logged)

end Run
end AdaptiveShaper
