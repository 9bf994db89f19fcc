import AdaptiveShaper.Host.Execution
import AdaptiveShaper.Log.Record
import AdaptiveShaper.Shaper.Setpoint
import AdaptiveShaper.Time.Span

/-!
# Health of a direction

A direction is degraded from the failure at which the failures in a row reach a threshold until the
next success; the events tell when that begins and ends.
-/

namespace AdaptiveShaper

/-- Why a setpoint could not be enforced. -/
inductive ApplyError where
  | spawn (direction : Direction) (command : String) (reason : OsError)
  /-- Without a code if the command was ended by a signal. -/
  | exitStatus (direction : Direction) (command : String) (code : Option Int) (stderr : String)
  | timeout (direction : Direction) (command : String) (limit : Span)
  deriving DecidableEq

namespace ApplyError

def direction : ApplyError → Direction
  | .spawn d _ _ => d
  | .exitStatus d _ _ _ => d
  | .timeout d _ _ => d

def codeText : Option Int → String
  | none => "None"
  | some n => "Some(" ++ toString n ++ ")"

def message : ApplyError → String
  | .spawn d command reason =>
    "failed to spawn `" ++ command ++ "` for " ++ d.name ++ ": " ++ reason.message
  | .exitStatus d command code stderr =>
    "`" ++ command ++ "` for " ++ d.name ++ " exited with " ++ codeText code ++ ": " ++ stderr
  | .timeout d command limit =>
    "`" ++ command ++ "` for " ++ d.name ++ " timed out after " ++ limit.text

end ApplyError

abbrev Outcome := Except ApplyError Unit

/-- Bookkeeping on the outcomes of one direction. -/
structure Health where
  /-- Failures since the last success, at most `2^32 - 1`. -/
  consecutiveFailures : Nat
  totalFailures : Nat
  totalApplies : Nat
  degraded : Bool
  /-- Whether the last outcome was a success. -/
  appliedLastTick : Bool
  /-- The last setpoint that was enforced. -/
  lastApplied : Option (Setpoint Float)
  /-- The last outcome's error. -/
  lastError : Option String

/-- What happens to a direction. -/
inductive HealthEvent where
  | failed (direction : Direction) (consecutiveFailures : Nat) (error : String)
  | degraded (direction : Direction) (threshold : Nat) (lastApplied : Option (Setpoint Float))
  | recovered (direction : Direction) (afterFailures : Nat)

namespace HealthEvent

def direction : HealthEvent → Direction
  | .failed d _ _ => d
  | .degraded d _ _ => d
  | .recovered d _ => d

def setpointText : Option (Setpoint Float) → String
  | none => "None"
  | some s => "Some(" ++ s.description ++ ")"

def record : HealthEvent → Log.Record
  | .failed d n error =>
    ⟨.warn, "cakerate::shaper::adapter", "Shaper apply failed",
      [("direction", .phrase d.name), ("consecutive_failures", .nat n), ("error", .phrase error)]⟩
  | .degraded d threshold last =>
    ⟨.error, "cakerate::shaper::adapter",
      "Shaper apply failing repeatedly, marking direction degraded",
      [("direction", .phrase d.name), ("threshold", .nat threshold),
        ("last_applied", .phrase (setpointText last))]⟩
  | .recovered d n =>
    ⟨.info, "cakerate::shaper::adapter", "Shaper apply recovered",
      [("direction", .phrase d.name), ("after_failures", .nat n)]⟩

end HealthEvent

namespace Health

def fresh : Health := ⟨0, 0, 0, false, false, none, none⟩

/-- The greatest count of consecutive failures that is told apart. -/
def maxConsecutive : Nat := 0xffff_ffff

/-- The health after `setpoint` was enforced. -/
def succeed (h : Health) (setpoint : Setpoint Float) : Health × List HealthEvent :=
  ({ consecutiveFailures := 0
     totalFailures := h.totalFailures
     totalApplies := h.totalApplies + 1
     degraded := false
     appliedLastTick := true
     lastApplied := some setpoint
     lastError := none },
   if h.degraded then [.recovered setpoint.direction h.consecutiveFailures] else [])

/-- The health after `setpoint` failed with `error`. -/
def fail (threshold : Nat) (h : Health) (setpoint : Setpoint Float) (error : ApplyError) :
    Health × List HealthEvent :=
  let n := min (h.consecutiveFailures + 1) maxConsecutive
  let worsens := !h.degraded && threshold ≤ n
  ({ h with
      consecutiveFailures := n
      totalFailures := h.totalFailures + 1
      totalApplies := h.totalApplies + 1
      degraded := h.degraded || worsens
      appliedLastTick := false
      lastError := some error.message },
   .failed setpoint.direction n error.message ::
     if worsens then [.degraded setpoint.direction threshold h.lastApplied] else [])

/-- The health after an outcome for `setpoint`. -/
def observe (threshold : Nat) (h : Health) (setpoint : Setpoint Float) :
    Outcome → Health × List HealthEvent
  | .ok _ => h.succeed setpoint
  | .error e => h.fail threshold setpoint e

/-! ## What outcomes do to the health -/

@[simp] theorem totalApplies_observe (threshold : Nat) (h : Health) (s : Setpoint Float)
    (o : Outcome) : (h.observe threshold s o).1.totalApplies = h.totalApplies + 1 := by
  cases o <;> rfl

end Health
end AdaptiveShaper
