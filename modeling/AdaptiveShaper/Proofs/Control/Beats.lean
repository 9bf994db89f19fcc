import AdaptiveShaper.Proofs.Control.Shutdown
import AdaptiveShaper.Proofs.Control.Timetable

/-!
# The beats of a run

The beats are the ticks that a run begins, read off its steps. They follow a timetable: slow calls
delay a tick and with it the ticks after it. Besides the moves of scripts there are lags, in which
the run is not woken even if it is due: the timer may be late by any amount, but it is never early.
-/

namespace AdaptiveShaper

/-- Whether a move turns the switch on or off. -/
def Move.isSend {σ : Type} : Move σ → Bool
  | .send _ => true
  | _ => false

/-- What happens around a run: a move of a script, or a lag in nanoseconds. -/
inductive Happening (σ : Type) where
  | move (m : Move σ)
  | lag (nanos : Nat)

namespace Happening

def asks {σ : Type} : Happening σ → Bool
  | .move m => m.asks
  | .lag _ => false

def isSend {σ : Type} : Happening σ → Bool
  | .move m => m.isSend
  | .lag _ => false

end Happening

/-- When the next tick is due, as far as that is settled. -/
def Stage.due? : Stage → Option Nat
  | .unstarted => none
  | .idle due => some due
  | .applying p => some p.nextDue
  | .finished => none

namespace Run

variable {σ : Type} {actuator : Actuator σ} {r next : Run σ} {target : Nat}

def undergo (actuator : Actuator σ) (r : Run σ) : Happening σ → Run σ
  | .move m => r.move actuator m
  | .lag nanos => r.setTime (r.time + nanos)

/-- The run after all of the happenings, in order. -/
def after (actuator : Actuator σ) (r : Run σ) (happenings : List (Happening σ)) : Run σ :=
  happenings.foldl (undergo actuator) r

/-! ## Beats -/

/-- The tick that was begun in coming from `r` to `next`, if one was. -/
def beat? (r next : Run σ) : Option Beat :=
  match r.stage, next.stage with
  | .idle due, .applying _ => some ⟨due, next.time⟩
  | _, _ => none

/-- The ticks begun before the time `target`. -/
def beatsBefore (actuator : Actuator σ) (target : Nat) (r : Run σ) : List Beat :=
  match _h : r.step? actuator target with
  | none => []
  | some (next, _) => (r.beat? next).toList ++ next.beatsBefore actuator target
termination_by r.workBefore target
decreasing_by exact workBefore_step? _h

/-- The ticks begun while one thing happens. Only a sleep leaves time for more than one. -/
def beatsOf (actuator : Actuator σ) (r : Run σ) : Happening σ → List Beat
  | .move (.sleep ms) => r.beatsBefore actuator (r.time + ms * 1_000_000)
  | h => (r.beat? (r.undergo actuator h)).toList

/-- The ticks begun in the course of the happenings. -/
def beats (actuator : Actuator σ) (r : Run σ) : List (Happening σ) → List Beat
  | [] => []
  | h :: later => r.beatsOf actuator h ++ (r.undergo actuator h).beats actuator later

theorem beatsBefore_of_none (h : r.step? actuator target = none) :
    r.beatsBefore actuator target = [] := by
  rw [beatsBefore]
  split
  · rfl
  · next hsome => rw [h] at hsome; cases hsome

theorem beatsBefore_of_some {x : Run σ × List LoopEvent}
    (h : r.step? actuator target = some x) :
    r.beatsBefore actuator target =
      (r.beat? x.1).toList ++ x.1.beatsBefore actuator target := by
  rw [beatsBefore]
  split
  · next hnone => rw [h] at hnone; cases hnone
  · next hsome =>
    rw [h] at hsome
    cases hsome
    rfl

theorem beat?_of_stage_eq (h : next.stage = r.stage) : r.beat? next = none := by
  unfold beat?
  rw [h]
  cases r.stage <;> rfl

theorem beat?_of_finished (h : next.stage = .finished) : r.beat? next = none := by
  unfold beat?
  rw [h]
  cases r.stage <;> rfl

theorem beatsOf_of_isSend {h : Happening σ} (hsend : h.isSend = true) :
    r.beatsOf actuator h = (r.beat? (r.undergo actuator h)).toList := by
  cases h with
  | move m =>
    cases m with
    | send value => rfl
    | _ => cases hsend
  | lag nanos => cases hsend

/-! ## Steps and time -/

theorem time_beginTick (actuator : Actuator σ) (r : Run σ) (due : Nat) :
    (r.beginTick actuator due).1.time = max r.time (wake due) := rfl

theorem due?_beginTick (actuator : Actuator σ) (r : Run σ) (due : Nat) :
    (r.beginTick actuator due).1.stage.due? =
      some (nextDue r.period due (r.beginTick actuator due).1.time) := rfl

theorem period_beginTick (actuator : Actuator σ) (r : Run σ) (due : Nat) :
    (r.beginTick actuator due).1.period = r.period := by
  have hinterval := r.service.loop.tickInterval_regulate (.steady r.clock r.clock)
    r.service.queue.drain.2
  exact congrArg (fun d : Span => max 1 d.nanos) hinterval

/-- What a reply leaves of a run with the call `p` on its way: the deadline of the next tick stays,
and the tick in progress is counted at its end. -/
structure Continues (r : Run σ) (p : Pending) (next : Run σ) : Prop where
  due_eq : next.stage.due? = some p.nextDue
  ticks_eq : next.service.loop.ticks + next.stage.ticksOpen = r.service.loop.ticks + 1
  published_eq : r.service.published.ticks = r.service.loop.ticks →
    next.service.published.ticks = next.service.loop.ticks
  period_eq : next.period = r.period

theorem continues_receive (actuator : Actuator σ) (r : Run σ) (p : Pending) :
    Continues r p (r.receive actuator p).1 := by
  cases hp : p.direction with
  | uplink =>
    rw [receive_uplink hp]
    exact ⟨rfl, rfl, id, rfl⟩
  | downlink =>
    rw [receive_downlink hp]
    exact ⟨rfl, rfl, fun _ => rfl, rfl⟩

theorem time_drive_le (actuator : Actuator σ) (target : Nat) (r : Run σ) (hle : r.time ≤ target) :
    (r.drive actuator target).1.time ≤ target := by
  induction r using drive.induct actuator target with
  | case1 r h =>
    rw [drive_of_none h]
    exact hle
  | case2 r next events h _ _ _ ih =>
    rw [drive_of_some h]
    apply ih
    rcases (step?_spec h).2 with heq | hlt
    · rw [heq]
      exact hle
    · exact Nat.le_of_lt hlt

theorem stage_send (r : Run σ) (value : Bool) : (r.send value).1.stage = r.stage := by
  unfold Run.send
  split <;> rfl

theorem stage_await (actuator : Actuator σ) (r : Run σ) :
    (r.await actuator).1.stage = .finished := by
  cases hs : r.stage with
  | finished =>
    rw [await_finished hs]
    exact hs
  | idle due =>
    rw [await_idle hs]
    rfl
  | unstarted =>
    rw [await_unstarted hs]
    rfl
  | applying p =>
    rw [await_applying hs]
    exact stage_await actuator _
termination_by r.stage.rank
decreasing_by
  rw [hs]
  exact rank_receive_lt actuator r p

/-! ## Runs keep to a timetable -/

/-- What the ticks begun so far have to do with a run. -/
structure Timed (period : Nat) (beats : List Beat) (r : Run σ) : Prop where
  period_eq : r.period = period
  timetable : Timetable period beats
  start_le : ∀ b ∈ beats, b.start ≤ r.time
  length_eq : beats.length = r.service.loop.ticks + r.stage.ticksOpen
  published_eq : r.service.published.ticks = r.service.loop.ticks
  due_eq : ∀ due ∈ r.stage.due?, ∀ last ∈ beats.getLast?,
    due = nextDue period last.due last.start
  unstarted : r.stage = .unstarted → beats = []

variable {period : Nat} {beats : List Beat}

theorem Timed.new (s : Settings) (port : σ) :
    (Run.new (.start s) port).Timed (Run.new (.start s) port).period [] where
  period_eq := rfl
  timetable := .nil _
  start_le := by simp
  length_eq := rfl
  published_eq := rfl
  due_eq := by simp
  unstarted := fun _ => rfl

/-- The timetable is seen from the loop, the timer and the stage alone. -/
theorem Timed.of_eq (h : r.Timed period beats) (hloop : next.service.loop = r.service.loop)
    (hpublished : next.service.published = r.service.published) (htime : r.time ≤ next.time)
    (hstage : next.stage = r.stage) : next.Timed period beats where
  period_eq := by
    rw [Run.period, hloop]
    exact h.period_eq
  timetable := h.timetable
  start_le b hb := (h.start_le b hb).trans htime
  length_eq := by
    rw [hloop, hstage]
    exact h.length_eq
  published_eq := by
    rw [hpublished, hloop]
    exact h.published_eq
  due_eq := by
    rw [hstage]
    exact h.due_eq
  unstarted := by
    rw [hstage]
    exact h.unstarted

theorem Timed.setTime (h : r.Timed period beats) {time : Nat} (hle : r.time ≤ time) :
    (r.setTime time).Timed period beats := h.of_eq rfl rfl hle rfl

theorem Timed.begin (h : r.Timed period beats) (hs : r.stage = .unstarted) :
    r.begin.1.Timed period beats := by
  have hnone := h.unstarted hs
  have hlength := h.length_eq
  rw [hs] at hlength
  refine ⟨h.period_eq, h.timetable, h.start_le, hlength, h.published_eq, ?_, fun _ => hnone⟩
  intro due _ last hlast
  rw [hnone] at hlast
  cases hlast

theorem Timed.close (h : r.Timed period beats) {due : Nat} (hs : r.stage = .idle due) :
    r.close.1.Timed period beats := by
  have hlength := h.length_eq
  rw [hs] at hlength
  refine ⟨h.period_eq, h.timetable, h.start_le, hlength, h.published_eq, ?_, ?_⟩
  · intro due hdue
    cases hdue
  · intro hs
    cases hs

/-- A tick begins when the timer wakes, and that is not before it is due. -/
theorem Timed.beginTick (h : r.Timed period beats) {due : Nat} (hs : r.stage = .idle due) :
    (r.beginTick actuator due).1.Timed period
      (beats ++ [⟨due, (r.beginTick actuator due).1.time⟩]) := by
  obtain ⟨hperiod, htimetable, hstart, hlength, hpublished, hdue, _⟩ := h
  rw [hs] at hlength hdue
  have hticks := r.service.loop.ticks_regulate (.steady r.clock r.clock) r.service.queue.drain.2
  constructor
  case period_eq => rw [period_beginTick, hperiod]
  case timetable =>
    refine htimetable.concat ?_ (hdue due rfl)
    rw [time_beginTick]
    exact (le_wake due).trans (Nat.le_max_right _ _)
  case start_le =>
    intro b hb
    rcases List.mem_append.mp hb with hb | hb
    · have hearlier := hstart b hb
      rw [time_beginTick]
      omega
    · rw [List.mem_singleton.mp hb]
  case length_eq =>
    rw [List.length_append, hlength]
    exact congrArg (· + 1) hticks.symm
  case published_eq => exact hpublished.trans hticks.symm
  case due_eq =>
    intro next hnext last hlast
    rw [due?_beginTick, Option.mem_some, hperiod] at hnext
    rw [List.getLast?_concat, Option.mem_some] at hlast
    rw [← hnext, ← hlast]
  case unstarted =>
    intro hs
    cases hs

theorem Timed.receive (h : r.Timed period beats) {p : Pending} (hs : r.stage = .applying p) :
    (r.receive actuator p).1.Timed period beats := by
  obtain ⟨hperiod, htimetable, hstart, hlength, hpublished, hdue, _⟩ := h
  have hnext := continues_receive actuator r p
  rw [hs] at hlength hdue
  constructor
  case period_eq => exact hnext.period_eq.trans hperiod
  case timetable => exact htimetable
  case start_le =>
    intro b hb
    have hearlier := hstart b hb
    rw [time_receive]
    omega
  case length_eq => exact hlength.trans hnext.ticks_eq.symm
  case published_eq => exact hnext.published_eq hpublished
  case due_eq =>
    rw [hnext.due_eq]
    exact hdue
  case unstarted =>
    intro hunstarted
    have hdue := hnext.due_eq
    rw [hunstarted] at hdue
    cases hdue

theorem Timed.of_no_beat (h : next.Timed period beats) (hbeat : r.beat? next = none) :
    next.Timed period (beats ++ (r.beat? next).toList) := by
  rw [hbeat, Option.toList_none, List.append_nil]
  exact h

/-- Each step keeps to the timetable, and adds a beat to it if a tick begins. -/
theorem Timed.step (h : r.Timed period beats) (hstep : LoopStep actuator r next) :
    next.Timed period (beats ++ (r.beat? next).toList) := by
  cases hstep with
  | begin hs => exact (h.begin hs).of_no_beat (by rw [beat?, hs])
  | close hs _ => exact (h.close hs).of_no_beat (beat?_of_finished rfl)
  | tick hs _ =>
    rw [beat?, hs]
    exact h.beginTick hs
  | receive hs => exact (h.receive hs).of_no_beat (by rw [beat?, hs])

theorem Timed.drive (h : r.Timed period beats) (target : Nat) :
    (r.drive actuator target).1.Timed period (beats ++ r.beatsBefore actuator target) := by
  induction r using drive.induct actuator target generalizing beats with
  | case1 r hnone =>
    rw [drive_of_none hnone, beatsBefore_of_none hnone, List.append_nil]
    exact h
  | case2 r next events hsome _ _ _ ih =>
    rw [drive_of_some hsome, beatsBefore_of_some hsome, ← List.append_assoc]
    exact ih (h.step (loopStep_of_step? hsome))

theorem Timed.turn (h : r.Timed period beats) (target : Nat) :
    (r.turn actuator target).Timed period
      (beats ++ (r.beat? (r.turn actuator target)).toList) := by
  unfold Run.turn
  cases hstep : r.step? actuator target with
  | none => exact h.of_no_beat (beat?_of_stage_eq rfl)
  | some x => exact h.step (loopStep_of_step? hstep)

theorem Timed.send (h : r.Timed period beats) (value : Bool) :
    (r.send value).1.Timed period beats := by
  unfold Run.send
  split
  · exact h
  · exact h.of_eq rfl rfl (Nat.le_refl _) rfl

/-- No tick begins while the end is awaited. -/
theorem timed_await (actuator : Actuator σ) (r : Run σ) (h : r.Timed period beats) :
    (r.await actuator).1.Timed period beats := by
  cases hs : r.stage with
  | finished =>
    rw [await_finished hs]
    exact h
  | idle due =>
    rw [await_idle hs]
    exact h.close hs
  | unstarted =>
    rw [await_unstarted hs]
    exact (h.begin hs).close rfl
  | applying p =>
    rw [await_applying hs]
    exact timed_await actuator _ (h.receive hs)
termination_by r.stage.rank
decreasing_by
  rw [hs]
  exact rank_receive_lt actuator r p

theorem Timed.of_stage_eq (h : r.Timed period beats)
    (hloop : next.service.loop = r.service.loop)
    (hpublished : next.service.published = r.service.published) (htime : r.time ≤ next.time)
    (hstage : next.stage = r.stage) : next.Timed period (beats ++ (r.beat? next).toList) :=
  (h.of_eq hloop hpublished htime hstage).of_no_beat (beat?_of_stage_eq hstage)

theorem Timed.undergo (h : r.Timed period beats) (happening : Happening σ) :
    (r.undergo actuator happening).Timed period (beats ++ r.beatsOf actuator happening) := by
  cases happening with
  | lag nanos => exact h.of_stage_eq rfl rfl (Nat.le_add_right _ _) rfl
  | move m =>
    cases m with
    | sleep ms =>
      have htime := time_drive_le actuator (r.time + ms * 1_000_000) r (Nat.le_add_right _ _)
      rw [Run.undergo, move_sleep]
      exact (h.drive _).setTime htime
    | turn target => exact h.turn target
    | record input => exact h.of_stage_eq rfl rfl (Nat.le_refl _) rfl
    | advance nanos => exact h.of_stage_eq rfl rfl (Nat.le_refl _) rfl
    | retune change => exact h.of_stage_eq rfl rfl (Nat.le_refl _) rfl
    | send value => exact (h.send value).of_no_beat (beat?_of_stage_eq (stage_send r value))
    | letGo => exact h.of_stage_eq rfl rfl (Nat.le_refl _) rfl
    | join =>
      exact (timed_await actuator _ (h.send true)).of_no_beat
        (beat?_of_finished (stage_await actuator _))

theorem Timed.after (h : r.Timed period beats) (happenings : List (Happening σ)) :
    (r.after actuator happenings).Timed period (beats ++ r.beats actuator happenings) := by
  induction happenings generalizing r beats with
  | nil =>
    rw [Run.beats, List.append_nil]
    exact h
  | cons happening later ih =>
    rw [Run.beats, ← List.append_assoc]
    exact ih (h.undergo happening)

/-! ## Turning the switch off -/

theorem Unasked.new (s : Settings) (port : σ) : (Run.new (.start s) port).Unasked := ⟨rfl, rfl⟩

/-- Turning off what is off changes nothing. -/
theorem Unasked.send_eq (h : r.Unasked) : (r.send false).1 = r := by
  have hrequested := h.requested_eq
  rw [Shutdown.requested, Bool.or_eq_false_iff] at hrequested
  have hshutdown : { r.shutdown with value := false } = r.shutdown := by rw [← hrequested.1]
  rw [Run.send, h.isFinished_eq, hrequested.2, Bool.or_false, if_neg Bool.false_ne_true, hshutdown]

theorem Unasked.undergo (h : r.Unasked) {happening : Happening σ} (hasks : happening.asks = false) :
    (r.undergo actuator happening).Unasked := by
  cases happening with
  | move m => exact h.move hasks
  | lag nanos => exact h.setTime _

theorem Unasked.undergo_isSend (h : r.Unasked) {happening : Happening σ}
    (hasks : happening.asks = false) (hsend : happening.isSend = true) :
    r.undergo actuator happening = r := by
  cases happening with
  | lag nanos => cases hsend
  | move m =>
    cases m with
    | send value =>
      obtain rfl : value = false := hasks
      exact h.send_eq
    | _ => cases hsend

/-- As long as nothing asks it to stop, a run goes as it would if the switch were left alone. -/
theorem Unasked.filter_isSend {happenings : List (Happening σ)} (h : r.Unasked)
    (hasks : ∀ x ∈ happenings, x.asks = false) :
    r.after actuator (happenings.filter fun x => !x.isSend) = r.after actuator happenings ∧
      r.beats actuator (happenings.filter fun x => !x.isSend) = r.beats actuator happenings := by
  induction happenings generalizing r with
  | nil => exact ⟨rfl, rfl⟩
  | cons x later ih =>
    have hx : x.asks = false := hasks x List.mem_cons_self
    have hlater : ∀ y ∈ later, y.asks = false := fun y hy => hasks y (.tail _ hy)
    cases hsend : x.isSend with
    | true =>
      have hstay : r.undergo actuator x = r := h.undergo_isSend hx hsend
      have hbeats : r.beats actuator (x :: later) = r.beats actuator later := by
        rw [beats, hstay, beatsOf_of_isSend hsend, hstay, beat?_of_stage_eq rfl]
        rfl
      have hafter : r.after actuator (x :: later) = r.after actuator later :=
        congrArg (Run.after actuator · later) hstay
      rw [List.filter_cons_of_neg (by simp [hsend]), hafter, hbeats]
      exact ih h hlater
    | false =>
      have hnext : (r.undergo actuator x).Unasked := h.undergo hx
      obtain ⟨hafter, hbeats⟩ := ih hnext hlater
      rw [List.filter_cons_of_pos (by simp [hsend]), beats, beats, hbeats]
      exact ⟨hafter, rfl⟩

/-! ## The pace of ticks -/

/-- The pace of a run that has begun the ticks `beats`. -/
structure Unhurried (period : Nat) (beats : List Beat) (r : Run σ) : Prop where
  /-- These are all ticks begun, published or still in progress. -/
  length_eq : beats.length = r.service.published.ticks + r.stage.ticksOpen
  due_le_start : ∀ b ∈ beats, b.due ≤ b.start
  start_le : ∀ b ∈ beats, b.start ≤ r.time
  spaced : beats.IsChain fun b c => b.Spaced period c.due
  /-- The tick that is due next keeps its distance as well. -/
  spaced_next : ∀ due ∈ r.stage.due?, ∀ last ∈ beats.getLast?, last.Spaced period due
  /-- By any time, at most one tick more was begun than there are whole periods. -/
  countP_le : ∀ time, (beats.countP fun b => b.start ≤ time) ≤ time / period + 1
  begun_le : r.service.published.ticks + r.stage.ticksOpen ≤ r.time / period + 1

theorem Timed.unhurried (h : r.Timed period beats) (hpos : 0 < period) :
    r.Unhurried period beats := by
  have hlength := h.length_eq
  rw [← h.published_eq] at hlength
  have hall : (beats.countP fun b => b.start ≤ r.time) = beats.length := by
    rw [List.countP_eq_length]
    intro b hb
    exact decide_eq_true (h.start_le b hb)
  have hbegun := h.timetable.countP_le hpos r.time
  rw [hall, hlength] at hbegun
  refine ⟨hlength, h.timetable.due_le_start, h.start_le, h.timetable.spaced, ?_,
    h.timetable.countP_le hpos, hbegun⟩
  intro due hdue last hlast
  rw [h.due_eq due hdue last hlast]
  exact last.spaced_nextDue period

theorem period_start {s : Settings} (h : s.validate = .ok ()) (port : σ) :
    (Run.new (.start s) port).period = s.tickInterval.nanos ∧ 0 < s.tickInterval.nanos := by
  have hzero := (s.validate_eq_ok_iff.mp h).tickInterval_pos
  have hpos : 0 < s.tickInterval.nanos := by
    rw [Span.isZero, beq_eq_false_iff_ne] at hzero
    exact Nat.pos_of_ne_zero hzero
  exact ⟨Nat.max_eq_right hpos, hpos⟩

/-- From accepted settings on, whatever happens around a run, however long calls take and however
late its timer is: ticks are due at least one interval apart, one that begins more than five
milliseconds late is followed by a whole interval, and by any time at most one tick more has begun
than there are whole intervals until then. Turning the switch off changes nothing. -/
theorem unhurried_after_start (s : Settings) (h : s.validate = .ok ()) (actuator : Actuator σ)
    (port : σ) (happenings : List (Happening σ)) :
    let start := Run.new (.start s) port
    Service.new s = .ok (.start s) ∧
      (start.after actuator happenings).Unhurried s.tickInterval.nanos
        (start.beats actuator happenings) ∧
      ((∀ x ∈ happenings, x.asks = false) →
        let others := happenings.filter fun x => !x.isSend
        start.after actuator others = start.after actuator happenings ∧
          start.beats actuator others = start.beats actuator happenings) := by
  intro start
  obtain ⟨hperiod, hpos⟩ := period_start h port
  have htimed : (start.after actuator happenings).Timed start.period
      ([] ++ start.beats actuator happenings) := (Timed.new s port).after happenings
  rw [hperiod, List.nil_append] at htimed
  exact ⟨Service.new_eq_ok h, htimed.unhurried hpos, (Unasked.new s port).filter_isSend⟩

/-- Calls take four intervals each, the timer lags, and the switch is turned off while a call is on
its way. -/
theorem unhurried_after_start_slow :
    let start := Run.new (.start .standard) Scripted.empty
    let happenings := [.move (.retune fun port => { port with delayMs := 40 }), .move (.sleep 100),
      .move (.send false), .lag 7_000_001, .move (.turn 900_000_000), .move (.sleep 100)]
    Settings.standard.validate = .ok () ∧ (∀ x ∈ happenings, x.asks = false) ∧
      (start.after .scripted happenings).Unhurried 10_000_000
        (start.beats .scripted happenings) ∧
      start.after .scripted (happenings.filter fun x => !x.isSend) =
        start.after .scripted happenings := by
  intro start happenings
  have h : Settings.standard.validate = .ok () := rfl
  have hasks : ∀ x ∈ happenings, x.asks = false := by
    simp [happenings, Happening.asks, Move.asks]
  obtain ⟨_, hunhurried, hsends⟩ :=
    unhurried_after_start .standard h .scripted .empty happenings
  have hinterval : Settings.standard.tickInterval.nanos = 10_000_000 := by decide
  rw [hinterval] at hunhurried
  exact ⟨h, hasks, hunhurried, (hsends hasks).1⟩

end Run
end AdaptiveShaper
