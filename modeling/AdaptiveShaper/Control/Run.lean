import AdaptiveShaper.Control.Service

/-!
# Running the control loop on a timer

A run ticks at fixed intervals until it is told to stop; a tick in progress is completed. Of the
timer it is assumed that it wakes at whole milliseconds and never early (`wake`), and that a tick
which begins more than five milliseconds late puts off the next one (`nextDue`). Of the switch it is
assumed that only its latest position is seen.
-/

namespace AdaptiveShaper

/-- The switch that tells a run to stop: its latest position, and whether it was let go. -/
structure Shutdown where
  value : Bool
  dropped : Bool
  deriving DecidableEq

namespace Shutdown

def untouched : Shutdown := ⟨false, false⟩

def requested (s : Shutdown) : Bool := s.value || s.dropped

end Shutdown

/-- A call on its way, as part of a tick. -/
structure Pending where
  direction : Direction
  reply : Reply
  /-- When the reply arrives. -/
  readyAt : Nat
  /-- How many failures the tick had before. -/
  failures : Nat
  drained : Nat
  /-- The clock when the tick began to enforce its setpoints. -/
  applyStart : Instant
  nextDue : Nat

/-- What a run does. -/
inductive Stage where
  | unstarted
  /-- Waiting for the time at which the next tick is due. -/
  | idle (due : Nat)
  | applying (call : Pending)
  | finished

namespace Stage

def isFinished : Stage → Bool
  | .finished => true
  | _ => false

/-- How many answers of calls and looks at the switch are left before the next tick or the end. -/
def rank : Stage → Nat
  | .unstarted => 2
  | .idle _ => 1
  | .applying p => match p.direction with
    | .uplink => 3
    | .downlink => 2
  | .finished => 0

end Stage

/-- A run of the control loop on a timer, with the state of its actuator. -/
structure Run (σ : Type) where
  service : Service
  actuator : σ
  clock : Instant
  /-- The timer, in nanoseconds. -/
  time : Nat
  shutdown : Shutdown
  stage : Stage

namespace Run

variable {σ : Type}

def new (service : Service) (actuator : σ) : Run σ :=
  ⟨service, actuator, .start, 0, .untouched, .unstarted⟩

/-- The time between ticks in nanoseconds; an empty interval is taken as one nanosecond. -/
def period (r : Run σ) : Nat := max 1 r.service.loop.tickInterval.nanos

/-- The first whole millisecond that is not before `due`. -/
def wake (due : Nat) : Nat := (due + 999_999) / 1_000_000 * 1_000_000

theorem le_wake (due : Nat) : due ≤ wake due := by
  unfold wake
  omega

/-- When the tick after one that was due at `due` and begins at `now` is due: ticks keep to their
schedule, except that one which begins late is followed by a whole period. -/
def nextDue (period due now : Nat) : Nat :=
  if due + 5_000_000 < now then now + period else due + period

theorem lt_nextDue {period due now : Nat} (h : 0 < period) : due < nextDue period due now := by
  unfold nextDue
  split <;> omega

/-- Begins the run; the first tick is due at once. -/
def begin (r : Run σ) : Run σ × List LoopEvent :=
  let l := r.service.loop
  ({ r with stage := .idle r.time }, [.started l.adapter.interfaces l.tickInterval])

/-- Ends the run; nobody drains the queue any more. -/
def close (r : Run σ) : Run σ × List LoopEvent :=
  ({ r with service := r.service.stop, stage := .finished }, [.stopped r.service.loop.ticks])

def makeCall (actuator : Actuator σ) (r : Run σ) (direction : Direction) (failures drained : Nat)
    (applyStart : Instant) (due : Nat) : Run σ :=
  let (state, reply) := actuator.apply r.actuator (r.service.loop.calls.get direction)
  { r with
    actuator := state
    clock := r.clock.advance reply.cost
    stage := .applying
      { direction := direction
        reply := reply
        readyAt := r.time + reply.delayMs * 1_000_000
        failures := failures
        drained := drained
        applyStart := applyStart
        nextDue := due } }

/-- Begins the tick that was due at `due`, not before the timer wakes. -/
def beginTick (actuator : Actuator σ) (r : Run σ) (due : Nat) : Run σ × List LoopEvent :=
  let time := max r.time (wake due)
  let (service, drained, events) := r.service.regulate (.steady r.clock r.clock)
  (makeCall actuator { r with service := service, time := time } .uplink 0 drained r.clock
    (nextDue r.period due time), events)

def note (r : Run σ) (p : Pending) : Run σ × List LoopEvent :=
  let l := r.service.loop
  let (l, events) := l.observe (l.setpoints.get p.direction) p.reply
  ({ r with service := { r.service with loop := l }, time := max r.time p.readyAt }, events)

/-- Closes the tick that `p` was the last call of, and publishes its figures. -/
def closeTick (r : Run σ) (p : Pending) (failures : Nat) : Run σ × List LoopEvent :=
  let (l, events) := r.service.loop.conclude p.drained (r.clock.since p.applyStart) failures
  ({ r with
      service := { r.service with loop := l }.publish r.clock
      stage := .idle p.nextDue }, events)

/-- Goes on with a tick when a reply has arrived: the uplink's is followed by the call for the
downlink, the downlink's by the end of the tick. -/
def receive (actuator : Actuator σ) (r : Run σ) (p : Pending) : Run σ × List LoopEvent :=
  let (r, noted) := r.note p
  let failures := p.reply.count p.failures
  match p.direction with
  | .uplink => (r.makeCall actuator .downlink failures p.drained p.applyStart p.nextDue, noted)
  | .downlink =>
    let (r, closed) := r.closeTick p failures
    (r, noted ++ closed)

/-- The next thing that happens before the time `target`, if anything does. -/
def step? (actuator : Actuator σ) (target : Nat) (r : Run σ) : Option (Run σ × List LoopEvent) :=
  match r.stage with
  | .unstarted => if r.time < target then some r.begin else none
  | .idle due =>
    if r.time < target ∧ r.shutdown.requested then some r.close
    else if max r.time (wake due) < target then some (r.beginTick actuator due)
    else none
  | .applying p => if max r.time p.readyAt < target then some (r.receive actuator p) else none
  | .finished => none

/-- How much can happen before `target`. -/
def workBefore (target : Nat) (r : Run σ) : Nat :=
  match r.stage with
  | .unstarted => 4 * (target - r.time) + 2
  | .idle due => 4 * (target - due) + 1
  | .applying p => 4 * (target - p.nextDue) + r.stage.rank
  | .finished => 0

theorem period_pos (r : Run σ) : 0 < r.period := Nat.le_max_left _ _

theorem stage_receive_uplink (actuator : Actuator σ) (r : Run σ) {p : Pending}
    (h : p.direction = .uplink) : ∃ q : Pending, (r.receive actuator p).1.stage = .applying q ∧
      q.direction = .downlink ∧ q.nextDue = p.nextDue := by
  cases p
  dsimp only at h
  subst h
  exact ⟨_, rfl, rfl, rfl⟩

theorem stage_receive_downlink (actuator : Actuator σ) (r : Run σ) {p : Pending}
    (h : p.direction = .downlink) : (r.receive actuator p).1.stage = .idle p.nextDue := by
  cases p
  dsimp only at h
  subst h
  rfl

theorem workBefore_step? {actuator : Actuator σ} {target : Nat} {r next : Run σ}
    {events : List LoopEvent}
    (h : r.step? actuator target = some (next, events)) :
    next.workBefore target < r.workBefore target := by
  unfold step? at h
  split at h
  · next hs =>
    split at h
    · have hn : r.begin.1 = next := congrArg Prod.fst (Option.some.inj h)
      simp [← hn, workBefore, begin, hs]
    · cases h
  · next due hs =>
    split at h
    · have hn : r.close.1 = next := congrArg Prod.fst (Option.some.inj h)
      simp [← hn, workBefore, close, hs]
    · split at h
      · next hlt =>
        have hn : (r.beginTick actuator due).1 = next := congrArg Prod.fst (Option.some.inj h)
        have h₁ := le_wake due
        have h₂ : due < nextDue r.period due (max r.time (wake due)) := lt_nextDue r.period_pos
        simp only [← hn, workBefore, beginTick, makeCall, Stage.rank, hs]
        omega
      · cases h
  · next p hs =>
    split at h
    · have hn : (r.receive actuator p).1 = next := congrArg Prod.fst (Option.some.inj h)
      cases hd : p.direction with
      | uplink =>
        obtain ⟨q, hq, hqd, hqn⟩ := stage_receive_uplink actuator r hd
        simp [← hn, workBefore, Stage.rank, hs, hq, hd, hqd, hqn]
      | downlink =>
        simp [← hn, workBefore, Stage.rank, hs, hd, stage_receive_downlink actuator r hd]
    · cases h
  · cases h

/-- Everything that happens before the time `target`. -/
def drive (actuator : Actuator σ) (target : Nat) (r : Run σ) : Run σ × List LoopEvent :=
  match _h : r.step? actuator target with
  | none => (r, [])
  | some (next, events) =>
    let (last, later) := next.drive actuator target
    (last, events ++ later)
termination_by r.workBefore target
decreasing_by exact workBefore_step? _h

/-- Lets `ms` milliseconds pass on the timer. -/
def sleep (actuator : Actuator σ) (ms : Nat) (r : Run σ) : Run σ × List LoopEvent :=
  let target := r.time + ms * 1_000_000
  let (next, events) := r.drive actuator target
  ({ next with time := target }, events)

/-- Puts the switch into a position; without effect once the run is finished or the switch let go.
-/
def send (r : Run σ) (value : Bool) : Run σ × Bool :=
  if r.stage.isFinished || r.shutdown.dropped then (r, false)
  else ({ r with shutdown := { r.shutdown with value := value } }, true)

def letGo (r : Run σ) : Run σ := { r with shutdown := { r.shutdown with dropped := true } }

theorem rank_receive_lt (actuator : Actuator σ) (r : Run σ) (p : Pending) :
    (r.receive actuator p).1.stage.rank < (Stage.applying p).rank := by
  cases hd : p.direction with
  | uplink =>
    obtain ⟨q, hq, hqd, _⟩ := stage_receive_uplink actuator r hd
    simp [Stage.rank, hq, hd, hqd]
  | downlink => simp [Stage.rank, hd, stage_receive_downlink actuator r hd]

/-- Waits for the end of a run that was told to stop: a tick in progress is completed. -/
def await (actuator : Actuator σ) (r : Run σ) : Run σ × List LoopEvent :=
  match _h : r.stage with
  | .finished => (r, [])
  | .idle _ => r.close
  | .unstarted =>
    let (r, began) := r.begin
    let (r, ended) := r.close
    (r, began ++ ended)
  | .applying p =>
    let (last, later) := (r.receive actuator p).1.await actuator
    (last, (r.receive actuator p).2 ++ later)
termination_by r.stage.rank
decreasing_by
  rw [_h]
  exact rank_receive_lt actuator r p

end Run
end AdaptiveShaper
