import AdaptiveShaper.Host.Execution
import AdaptiveShaper.Shaper.Health
import AdaptiveShaper.Text.Basic

/-!
# Actuators

An actuator is a state and a function that answers one call, with the outcome, what it tells about
it, and how long it takes. The traffic control program of a host is one; others only tell what they
would do, or remember their calls and fail on request.
-/

namespace AdaptiveShaper

/-- A setpoint to be enforced on an interface. -/
structure Call where
  device : String
  setpoint : Setpoint Float

namespace Call

def argumentLine (c : Call) : String := c.setpoint.argumentLine c.device

def commandLine (program : String) (c : Call) : String := program ++ " " ++ c.argumentLine

end Call

/-- What actuators tell about their work. -/
inductive ActuatorEvent where
  | dryRun (call : Call)
  | replaced (call : Call)

def ActuatorEvent.record : ActuatorEvent → Log.Record
  | .dryRun c =>
    ⟨.info, "cakerate::shaper::tc", "Dry run, not applying",
      [("direction", .phrase c.setpoint.direction.name), ("command", .phrase (c.commandLine "tc"))]⟩
  | .replaced c =>
    ⟨.trace, "cakerate::shaper::tc", "tc qdisc replaced",
      [("direction", .phrase c.setpoint.direction.name), ("interface", .string c.device),
        ("rate_kbit", .float c.setpoint.rateKbit), ("rtt_us", .nat c.setpoint.rttMicros.toNat)]⟩

/-- The answer to a call. -/
structure Reply where
  outcome : Outcome
  events : List ActuatorEvent
  /-- How far the monotonic clock moves when the call starts, in nanoseconds. -/
  cost : Nat
  /-- How long the caller waits for the outcome, in milliseconds. -/
  delayMs : Nat

/-- The count of failures once the reply has arrived. -/
def Reply.count (failures : Nat) (r : Reply) : Nat :=
  match r.outcome with
  | .ok _ => failures
  | .error _ => failures + 1

/-- Something that carries calls out, with a state of type `σ`. -/
structure Actuator (σ : Type) where
  apply : σ → Call → σ × Reply

def Reply.instant (outcome : Outcome) (events : List ActuatorEvent) : Reply :=
  ⟨outcome, events, 0, 0⟩

/-- Tells what would be done, and succeeds. -/
def Actuator.dryRun : Actuator Unit := ⟨fun _ c => ((), .instant (.ok ()) [.dryRun c])⟩

/-- A call that was made, and whether it succeeded. -/
structure Recorded where
  call : Call
  ok : Bool

/-- The calls so far, and which directions are to fail. -/
structure Recording where
  calls : List Recorded
  failing : Both Bool

namespace Recording

def empty : Recording := ⟨[], Both.same false⟩

def failure (c : Call) : ApplyError :=
  .exitStatus c.setpoint.direction (c.commandLine "tc") (some 2) "simulated failure"

def apply (r : Recording) (c : Call) : Recording × Reply :=
  let fails := r.failing.get c.setpoint.direction
  ({ r with calls := r.calls ++ [⟨c, !fails⟩] },
    .instant (if fails then .error (failure c) else .ok ()) [])

end Recording

def Actuator.recording : Actuator Recording := ⟨Recording.apply⟩

/-! ## Rehearsals -/

/-- A way in which calls fail. -/
inductive FailureKind where
  | spawn (reason : OsError)
  | exitStatus (code : Option Int) (stderr : String)
  | timeout (limit : Span)
  deriving DecidableEq

def FailureKind.error (c : Call) : FailureKind → ApplyError
  | .spawn reason => .spawn c.setpoint.direction (c.commandLine "tc") reason
  | .exitStatus code stderr => .exitStatus c.setpoint.direction (c.commandLine "tc") code stderr
  | .timeout limit => .timeout c.setpoint.direction (c.commandLine "tc") limit

/-- The calls so far, and how the next ones are to be answered. -/
structure Scripted where
  calls : List Recorded
  failing : Both (Option FailureKind)
  cost : Nat
  delayMs : Nat

namespace Scripted

def empty : Scripted := ⟨[], Both.same none, 0, 0⟩

def outcome (s : Scripted) (c : Call) : Outcome :=
  match s.failing.get c.setpoint.direction with
  | none => .ok ()
  | some kind => .error (kind.error c)

def apply (s : Scripted) (c : Call) : Scripted × Reply :=
  let outcome := s.outcome c
  ({ s with calls := s.calls ++ [⟨c, outcome.isOk⟩] }, ⟨outcome, [], s.cost, s.delayMs⟩)

end Scripted

def Actuator.scripted : Actuator Scripted := ⟨Scripted.apply⟩

/-! ## The traffic control program -/

/-- The program and the time that it may take. -/
structure TrafficControl where
  program : String
  limit : Span

namespace TrafficControl

def code? : Ending → Option Int
  | .exited code => some code
  | .killed _ => none

def errorText (stderr : List Nat) : String := String.ofList (Text.trim (Text.ofBytes stderr))

/-- What an execution means for the call that it was started for. -/
def outcome (t : TrafficControl) (c : Call) : Execution → Outcome
  | .refused reason => .error (.spawn c.setpoint.direction (c.commandLine t.program) reason)
  | .ended how stderr elapsed =>
    if t.limit ≤ elapsed then
      .error (.timeout c.setpoint.direction (c.commandLine t.program) t.limit)
    else if how = .exited 0 then .ok ()
    else .error (.exitStatus c.setpoint.direction (c.commandLine t.program) (code? how)
      (errorText stderr))

def waiting (t : TrafficControl) : Execution → Span
  | .refused _ => .zero
  | .ended _ _ elapsed => if t.limit ≤ elapsed then t.limit else elapsed

def reply (t : TrafficControl) (host : Host) (c : Call) : Reply :=
  let execution := host.execute t.program (c.setpoint.arguments c.device)
  let outcome := t.outcome c execution
  { outcome := outcome
    events := if outcome.isOk then [.replaced c] else []
    cost := (t.waiting execution).nanos
    delayMs := (t.waiting execution).millis }

end TrafficControl

def Actuator.trafficControl (t : TrafficControl) (host : Host) : Actuator Unit :=
  ⟨fun _ c => ((), t.reply host c)⟩

end AdaptiveShaper
