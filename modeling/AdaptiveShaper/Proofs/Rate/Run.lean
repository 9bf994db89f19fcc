import AdaptiveShaper.Rate.Controller

/-!
# Runs of the rate controller

Whoever drives the controller makes two kinds of calls, each with the reading of a clock that may
stand still, jump or go back. Beside the controller stands a guarded one, which gives up where it
would hold a number to bounds that are inverted or no numbers.
-/

namespace AdaptiveShaper

inductive RateCall where
  | signal (now : Instant)
  | tick (now : Instant) (rttMean : Option Span)

namespace RateController

variable {R : Type} [RateNumber R]

/-- The controller after a call, with the setpoints that a tick returns. -/
def answer (c : RateController R) : RateCall → RateController R × Option (Both (Setpoint R))
  | .signal now => ((c.signal now).1, none)
  | .tick now rttMean =>
    let next := (c.tick now rttMean).1
    (next, some next.setpoints)

def run (c : RateController R) (calls : List RateCall) : RateController R :=
  calls.foldl (fun c call => (c.answer call).1) c

@[simp] theorem run_cons (c : RateController R) (call : RateCall) (calls : List RateCall) :
    c.run (call :: calls) = (c.answer call).1.run calls := rfl

theorem run_append (c : RateController R) (calls later : List RateCall) :
    c.run (calls ++ later) = (c.run calls).run later :=
  List.foldl_append

theorem run_concat (c : RateController R) (calls : List RateCall) (call : RateCall) :
    c.run (calls ++ [call]) = ((c.run calls).answer call).1 :=
  run_append c calls [call]

/-! ## What a tick can do -/

/-- The ways in which a tick may move the phase, the rates and the number of recoveries. -/
inductive PhaseStep (c next : RateController R) : Prop where
  | grow (hphase : c.phase = .growing) (hnext : next.phase = .growing)
    (hrates : next.rates = c.rates.map DirectionRate.double)
    (hrecoveries : next.totalRecoveries = c.totalRecoveries)
  | settle (hphase : c.phase = .backoff) (hnext : next.phase = .recovering)
    (hrecoveries : next.totalRecoveries = c.totalRecoveries)
  | climb (hphase : c.phase = .recovering) (hnext : next.phase = .recovering)
    (hrecoveries : next.totalRecoveries = c.totalRecoveries)
  | arrive (hphase : c.phase = .recovering) (hnext : next.phase = .growing)
    (hceiling : next.rates.all DirectionRate.atCeiling = true)
    (hrecoveries : next.totalRecoveries = c.totalRecoveries + 1)

theorem phaseStep_step (c : RateController R) (now : Instant) : PhaseStep c (c.step now).1 := by
  unfold step
  split
  · next h => exact .grow h h rfl rfl
  · next h => exact .settle h rfl rfl
  · next h =>
    unfold recover
    simp only
    split
    · next hceiling => exact .arrive h rfl hceiling rfl
    · exact .climb h h rfl

theorem phaseStep_tick (c : RateController R) (now : Instant) (rttMean : Option Span) :
    PhaseStep c (c.tick now rttMean).1 := by
  cases phaseStep_step { c with totalTicks := c.totalTicks + 1 } now with
  | grow h₁ h₂ h₃ h₄ => exact .grow h₁ h₂ h₃ h₄
  | settle h₁ h₂ h₃ => exact .settle h₁ h₂ h₃
  | climb h₁ h₂ h₃ => exact .climb h₁ h₂ h₃
  | arrive h₁ h₂ h₃ h₄ => exact .arrive h₁ h₂ h₃ h₄

theorem kept_step (c : RateController R) (now : Instant) :
    (c.step now).1.totalTicks = c.totalTicks ∧ (c.step now).1.totalBackoffs = c.totalBackoffs ∧
      (c.step now).1.signalledAt = c.signalledAt := by
  unfold step
  split
  · exact ⟨rfl, rfl, rfl⟩
  · exact ⟨rfl, rfl, rfl⟩
  · unfold recover
    simp only
    split <;> exact ⟨rfl, rfl, rfl⟩

@[simp] theorem totalTicks_tick (c : RateController R) (now : Instant) (rttMean : Option Span) :
    (c.tick now rttMean).1.totalTicks = c.totalTicks + 1 :=
  (kept_step { c with totalTicks := c.totalTicks + 1 } now).1

@[simp] theorem totalBackoffs_tick (c : RateController R) (now : Instant)
    (rttMean : Option Span) : (c.tick now rttMean).1.totalBackoffs = c.totalBackoffs :=
  (kept_step { c with totalTicks := c.totalTicks + 1 } now).2.1

@[simp] theorem signalledAt_tick (c : RateController R) (now : Instant)
    (rttMean : Option Span) : (c.tick now rttMean).1.signalledAt = c.signalledAt :=
  (kept_step { c with totalTicks := c.totalTicks + 1 } now).2.2

end RateController

/-! ## The guarded controller -/

/-- Like `clamp`, but without an answer if a number is held to bounds that are not in order. Bounds
of which one is NaN are in no order. -/
def RateNumber.clamp? {R : Type} [RateNumber R] (lo hi x : R) : Option R :=
  if isNaN x then some lo else if atMost lo hi then some (clamp lo hi x) else none

/-- The values of a function, if it has one in both directions. -/
def Both.map? {α β : Type} (f : α → Option β) (b : Both α) : Option (Both β) := do
  return ⟨← f b.uplink, ← f b.downlink⟩

theorem Both.map?_eq_some {α β : Type} {f : α → Option β} {g : α → β} {b : Both α}
    (h : ∀ d, f (b.get d) = some (g (b.get d))) : b.map? f = some (b.map g) := by
  have hup : f b.uplink = some (g b.uplink) := h .uplink
  have hdown : f b.downlink = some (g b.downlink) := h .downlink
  rw [Both.map?, hup, hdown]
  rfl

namespace DirectionRate

variable {R : Type} [RateNumber R]

def moveTo? (r : DirectionRate R) (x : R) : Option (DirectionRate R) :=
  (RateNumber.clamp? r.floor r.ceiling x).map fun rate => { r with current := rate }

def double? (r : DirectionRate R) : Option (DirectionRate R) := r.moveTo? (r.current * 2.0)

def cut? (b : R) (r : DirectionRate R) : Option (DirectionRate R) :=
  { r with reference := r.current }.moveTo? (r.current * b)

def recover? (elapsed b c : R) (r : DirectionRate R) : Option (DirectionRate R) :=
  r.moveTo? (Recovery.rate r.reference elapsed b c)

end DirectionRate

namespace RateController

variable {R : Type} [RateNumber R]

def start? (s : RateSettings R) : Option (RateController R) :=
  (s.clampRtt? s.initialRtt).map fun target => { start s with rttTarget := target }

def signal? (c : RateController R) (now : Instant) : Option (RateController R) := do
  let rates ← c.rates.map? (DirectionRate.cut? c.settings.backoffFraction)
  return { c with
    phase := .backoff
    rates := rates
    signalledAt := some now
    totalBackoffs := c.totalBackoffs + 1 }

def recover? (c : RateController R) (now : Instant) : Option (RateController R) := do
  let elapsed := (c.elapsedSecs now).getD 0.0
  let s := c.settings
  let rates ← c.rates.map? (DirectionRate.recover? elapsed s.backoffFraction s.cubicConstant)
  if rates.all DirectionRate.atCeiling then
    return { c with
      rates := rates, phase := .growing, totalRecoveries := c.totalRecoveries + 1 }
  else return { c with rates := rates }

def step? (c : RateController R) (now : Instant) : Option (RateController R) :=
  match c.phase with
  | .growing => (c.rates.map? DirectionRate.double?).map fun rates => { c with rates := rates }
  | .backoff => some { c with phase := .recovering }
  | .recovering => c.recover? now

def retarget? (c : RateController R) (rttMean : Option Span) : Option (RateController R) := do
  let target ← match rttMean with
    | none => some c.rttTarget
    | some mean => c.settings.clampRtt? mean
  return { c with rttTarget := target, splitGso := splits c.settings c.rates }

def answer? (c : RateController R) : RateCall → Option (RateController R)
  | .signal now => c.signal? now
  | .tick now rttMean => do
    let stepped ← { c with totalTicks := c.totalTicks + 1 }.step? now
    stepped.retarget? rttMean

def run? (c : RateController R) (calls : List RateCall) : Option (RateController R) :=
  calls.foldlM answer? c

end RateController
end AdaptiveShaper
