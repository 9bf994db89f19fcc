import AdaptiveShaper.Log.Record
import AdaptiveShaper.Rate.Settings
import AdaptiveShaper.Shaper.Setpoint
import AdaptiveShaper.Time.Span

/-!
# The rate controller

A machine with three phases. While *growing*, each tick doubles the rate of both directions up to
their ceilings. A latency increase cuts both rates to a share of what they were and enters
*backoff*, which lasts until the next tick; then the rates follow the recovery curve, *recovering*,
until both are at their ceilings again.
-/

namespace AdaptiveShaper

/-! ## The recovery curve -/

namespace Recovery

variable {R : Type} [RateNumber R]

open RateNumber

/-- The third power, as a product with a square. -/
def cube (x : R) : R := x * (x * x)

/-- How many seconds after the cut the curve reaches the reference. -/
def inflection (reference b c : R) : R := cubeRoot (reference * (1.0 - b) / c)

/-- The rate `elapsed` seconds after a cut from `reference` to its share `b`, with concavity `c`. -/
def rate (reference elapsed b c : R) : R :=
  c * cube (elapsed - inflection reference b c) + reference

end Recovery

/-! ## The controller -/

/-- Phases of the rate controller. -/
inductive Phase where
  | growing
  | backoff
  | recovering
  deriving DecidableEq

def Phase.name : Phase → String
  | .growing => "growing"
  | .backoff => "backoff"
  | .recovering => "recovering"

/-- The rate of one direction with its bounds. -/
structure DirectionRate (R : Type) where
  current : R
  /-- The rate at the most recent latency increase. -/
  reference : R
  floor : R
  ceiling : R

namespace DirectionRate

variable {R : Type} [RateNumber R]

/-- The rate set to `x`, held to its bounds. -/
def moveTo (r : DirectionRate R) (x : R) : DirectionRate R :=
  { r with current := RateNumber.clamp r.floor r.ceiling x }

def double (r : DirectionRate R) : DirectionRate R := r.moveTo (r.current * 2.0)

/-- The rate cut to its share `b`; what it was becomes the reference. -/
def cut (b : R) (r : DirectionRate R) : DirectionRate R :=
  { r with reference := r.current }.moveTo (r.current * b)

def recover (elapsed b c : R) (r : DirectionRate R) : DirectionRate R :=
  r.moveTo (Recovery.rate r.reference elapsed b c)

def atCeiling (r : DirectionRate R) : Bool := RateNumber.atMost r.ceiling r.current

end DirectionRate

/-- What a rate controller tells about its work. -/
inductive RateEvent (R : Type) where
  | backedOff (leaving : Phase) (reference rate : Both R) (totalBackoffs : Nat)
  | recovered (elapsedSecs : R) (rate : Both R)
  | ticked (phase : Phase) (rate : Both R) (rttMicros : UInt64) (splitGso : Bool)

def RateEvent.record : RateEvent Float → Log.Record
  | .backedOff leaving reference rate total =>
    ⟨.debug, "cakerate::rate_control::controller", "Bufferbloat detected, backing off",
      [("from", .phrase leaving.name), ("reference_up_kbit", .float reference.uplink),
        ("reference_down_kbit", .float reference.downlink), ("rate_up_kbit", .float rate.uplink),
        ("rate_down_kbit", .float rate.downlink), ("total_backoffs", .nat total)]⟩
  | .recovered elapsed rate =>
    ⟨.debug, "cakerate::rate_control::controller", "Recovered to ceiling, resuming growth",
      [("elapsed_secs", .float elapsed), ("rate_up_kbit", .float rate.uplink),
        ("rate_down_kbit", .float rate.downlink)]⟩
  | .ticked phase rate rttMicros splitGso =>
    ⟨.trace, "cakerate::rate_control::controller", "Rate controller tick",
      [("state", .phrase phase.name), ("rate_up_kbit", .float rate.uplink),
        ("rate_down_kbit", .float rate.downlink), ("rtt_us", .nat rttMicros.toNat),
        ("split_gso", .bool splitGso)]⟩

/-- The state of a rate controller. -/
structure RateController (R : Type) where
  settings : RateSettings R
  phase : Phase
  rates : Both (DirectionRate R)
  /-- When the most recent latency increase was handled. -/
  signalledAt : Option Instant
  rttTarget : Span
  splitGso : Bool
  totalBackoffs : Nat
  totalRecoveries : Nat
  totalTicks : Nat

/-- A view of a rate controller at one moment. -/
structure RateStats (R : Type) where
  phase : Phase
  rate : Both R
  reference : Both R
  rttTarget : Span
  splitGso : Bool
  sinceLastBackoffSecs : Option R
  totalBackoffs : Nat
  totalRecoveries : Nat
  totalTicks : Nat

namespace RateController

variable {R : Type} [RateNumber R]

open RateNumber

def initialRate (s : RateSettings R) (d : Direction) : DirectionRate R :=
  ⟨s.rateFloorKbit, s.rateFloorKbit, s.rateFloorKbit, s.ceiling d⟩

def splits (s : RateSettings R) (rates : Both (DirectionRate R)) : Bool :=
  rates.any fun r => below r.current s.splitGsoThresholdKbit

/-- The controller that starts with settings that passed their checks. -/
def start (s : RateSettings R) : RateController R :=
  let rates := Both.ofFn (initialRate s)
  { settings := s
    phase := .growing
    rates := rates
    signalledAt := none
    rttTarget := s.clampRtt s.initialRtt
    splitGso := splits s rates
    totalBackoffs := 0
    totalRecoveries := 0
    totalTicks := 0 }

/-- The controller for some settings, or what is wrong with them. -/
def new (s : RateSettings R) : Except (RateFault R) (RateController R) := do
  s.validate
  return start s

def rate (c : RateController R) : Both R := c.rates.map DirectionRate.current

def reference (c : RateController R) : Both R := c.rates.map DirectionRate.reference

/-- The target round-trip time in whole microseconds, modulo `2^64`. -/
def rttMicros (c : RateController R) : UInt64 := .ofNat c.rttTarget.micros

/-- The setpoint of a direction for the current rate and target. -/
def setpoint (c : RateController R) (d : Direction) : Setpoint R :=
  ⟨d, c.rate.get d, c.rttMicros, c.splitGso⟩

def setpoints (c : RateController R) : Both (Setpoint R) := Both.ofFn c.setpoint

/-- Seconds from the most recent latency increase to `now`. -/
def elapsedSecs (c : RateController R) (now : Instant) : Option R :=
  c.signalledAt.map fun t => ofSeconds (now.since t)

/-- Handles a latency increase at `now`: both rates are cut. -/
def signal (c : RateController R) (now : Instant) : RateController R × RateEvent R :=
  let next := { c with
    phase := .backoff
    rates := c.rates.map (DirectionRate.cut c.settings.backoffFraction)
    signalledAt := some now
    totalBackoffs := c.totalBackoffs + 1 }
  (next, .backedOff c.phase next.reference next.rate next.totalBackoffs)

/-- One step on the recovery curve; at both ceilings the controller grows again. -/
def recover (c : RateController R) (now : Instant) : RateController R × List (RateEvent R) :=
  let elapsed := (c.elapsedSecs now).getD 0.0
  let s := c.settings
  let moved := { c with
    rates := c.rates.map (DirectionRate.recover elapsed s.backoffFraction s.cubicConstant) }
  if moved.rates.all DirectionRate.atCeiling then
    ({ moved with phase := .growing, totalRecoveries := c.totalRecoveries + 1 },
      [.recovered elapsed moved.rate])
  else (moved, [])

def step (c : RateController R) (now : Instant) : RateController R × List (RateEvent R) :=
  match c.phase with
  | .growing => ({ c with rates := c.rates.map DirectionRate.double }, [])
  | .backoff => ({ c with phase := .recovering }, [])
  | .recovering => c.recover now

/-- Moves the target to the mean round-trip time, if there is one, and decides on splitting. -/
def retarget (c : RateController R) (rttMean : Option Span) : RateController R :=
  { c with
    rttTarget := match rttMean with
      | none => c.rttTarget
      | some mean => c.settings.clampRtt mean
    splitGso := splits c.settings c.rates }

/-- One tick at `now` with the mean of the round-trip times seen, if any. -/
def tick (c : RateController R) (now : Instant) (rttMean : Option Span) :
    RateController R × List (RateEvent R) :=
  let (stepped, events) := { c with totalTicks := c.totalTicks + 1 }.step now
  let next := stepped.retarget rttMean
  (next, events ++ [.ticked next.phase next.rate next.rttMicros next.splitGso])

/-- The view of the controller at `now`. -/
def stats (c : RateController R) (now : Instant) : RateStats R where
  phase := c.phase
  rate := c.rate
  reference := c.reference
  rttTarget := c.rttTarget
  splitGso := c.splitGso
  sinceLastBackoffSecs := c.elapsedSecs now
  totalBackoffs := c.totalBackoffs
  totalRecoveries := c.totalRecoveries
  totalTicks := c.totalTicks

/-! ## What signals and ticks do to the phase and the counters -/

@[simp] theorem phase_signal (c : RateController R) (now : Instant) :
    (c.signal now).1.phase = .backoff := rfl

@[simp] theorem totalBackoffs_signal (c : RateController R) (now : Instant) :
    (c.signal now).1.totalBackoffs = c.totalBackoffs + 1 := rfl

@[simp] theorem reference_signal (c : RateController R) (now : Instant) :
    (c.signal now).1.reference = c.rate := rfl

theorem phase_recover (c : RateController R) (now : Instant) (h : c.phase = .recovering) :
    (c.recover now).1.phase = .growing ∨ (c.recover now).1.phase = .recovering := by
  unfold recover
  simp only
  split
  · exact Or.inl rfl
  · exact Or.inr h

theorem phase_step_ne_backoff (c : RateController R) (now : Instant) :
    (c.step now).1.phase ≠ .backoff := by
  unfold step
  split
  · next h => simp [h]
  · simp
  · next h => rcases phase_recover c now h with h₁ | h₁ <;> simp [h₁]

theorem phase_tick_ne_backoff (c : RateController R) (now : Instant) (rttMean : Option Span) :
    (c.tick now rttMean).1.phase ≠ .backoff :=
  phase_step_ne_backoff { c with totalTicks := c.totalTicks + 1 } now

theorem settings_step (c : RateController R) (now : Instant) :
    (c.step now).1.settings = c.settings := by
  unfold step
  split
  · rfl
  · rfl
  · unfold recover
    simp only
    split <;> rfl

end RateController
end AdaptiveShaper
