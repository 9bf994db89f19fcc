import AdaptiveShaper.Binary64.Basic
import AdaptiveShaper.Shaper.Setpoint
import AdaptiveShaper.Time.Span

/-!
# Settings of the rate controller

The limits a link is run within and the shape of the recovery curve. Rates can be of any type with
the operations of `RateNumber`: the program runs on binary64 numbers, and with exact operations the
same definitions describe the ideal control law.
-/

namespace AdaptiveShaper

/-! ## Numbers -/

/-- Arithmetic, comparisons and classification of rates. -/
class RateNumber (R : Type) extends Add R, Sub R, Mul R, Div R, OfScientific R where
  ofNat : Nat → R
  cubeRoot : R → R
  /-- Whether the first number is at most the second. -/
  atMost : R → R → Bool
  /-- Whether the first number is less than the second. -/
  below : R → R → Bool
  isNaN : R → Bool
  isFinite : R → Bool

/-- Binary64 arithmetic with any function for the cube root, of which no standard says how exact it
has to be. -/
@[reducible]
def RateNumber.binary64 (cubeRoot : Float → Float) : RateNumber Float where
  ofNat := Float.ofNat
  cubeRoot := cubeRoot
  atMost x y := x ≤ y
  below x y := x < y
  isNaN := Float.isNaN
  isFinite := Float.isFinite

instance : RateNumber Float := .binary64 Binary64.cubeRoot

namespace RateNumber

variable {R : Type} [RateNumber R]

/-- A span in seconds: the whole seconds and the fraction, added. -/
def ofSeconds (d : Span) : R := ofNat d.secs + ofNat d.subsecNanos / 1000000000.0

/-- The number nearest to `x` between `lo` and `hi`; `lo` if `x` is no number. -/
def clamp (lo hi x : R) : R :=
  if isNaN x then lo
  else if below x lo then lo
  else if below hi x then hi
  else x

end RateNumber

/-! ## Settings -/

/-- Tuning of the rate controller. Rates are in kbit per second. -/
structure RateSettings (R : Type) where
  maxUploadKbit : R
  maxDownloadKbit : R
  rateFloorKbit : R
  minRtt : Span
  maxRtt : Span
  /-- The round-trip time assumed until the first sample arrives. -/
  initialRtt : Span
  /-- The share of the rate that is kept when latency increases. -/
  backoffFraction : R
  /-- The concavity of the recovery curve. -/
  cubicConstant : R
  /-- Below this rate, in either direction, large packets are split. -/
  splitGsoThresholdKbit : R

/-- Why settings of the rate controller are refused. -/
inductive RateFault (R : Type) where
  | rateFloor (direction : Direction) (floor max : R)
  | rttBounds (min max : Span)
  | backoffFraction (value : R)
  | cubicConstant (value : R)
  | splitGsoThreshold (value : R)

def RateFault.message : RateFault Float → String
  | .rateFloor d floor max =>
    "rate floor (" ++ Decimal.Layout.plain.text floor ++ " kbit) must be at least 1 kbit and at " ++
      "most 90% of max " ++ d.name ++ " rate (" ++ Decimal.Layout.plain.text max ++ " kbit)"
  | .rttBounds min max =>
    "rtt bounds are inverted or zero: min " ++ min.text ++ ", max " ++ max.text
  | .backoffFraction x => "backoff fraction must be in (0, 1), got " ++ Decimal.Layout.plain.text x
  | .cubicConstant x =>
    "cubic concavity constant must be positive, got " ++ Decimal.Layout.plain.text x
  | .splitGsoThreshold x =>
    "split-gso threshold must be a non-negative number, got " ++ Decimal.Layout.plain.text x ++
      " kbit"

namespace RateSettings

def standard : RateSettings Float where
  maxUploadKbit := 4000000.0
  maxDownloadKbit := 4000000.0
  rateFloorKbit := 1000.0
  minRtt := .ofMillis 10
  maxRtt := .ofSecs 1
  initialRtt := .ofMillis 100
  backoffFraction := 0.7
  cubicConstant := 0.4
  splitGsoThresholdKbit := 100000.0

variable {R : Type} [RateNumber R]

open RateNumber

def maxRate (s : RateSettings R) : Direction → R
  | .uplink => s.maxUploadKbit
  | .downlink => s.maxDownloadKbit

def ceiling (s : RateSettings R) (d : Direction) : R := s.maxRate d * 0.9

def clampRtt (s : RateSettings R) (rtt : Span) : Span := rtt.clamp s.minRtt s.maxRtt

/-- Like `clampRtt`, but without an answer if the bounds are inverted. -/
def clampRtt? (s : RateSettings R) (rtt : Span) : Option Span :=
  if s.minRtt ≤ s.maxRtt then some (s.clampRtt rtt) else none

/-- Whether the floor is at least one kbit and at most the ceiling of a direction. -/
def floorFits (s : RateSettings R) (d : Direction) : Bool :=
  atMost 1.0 s.rateFloorKbit && atMost s.rateFloorKbit (s.ceiling d)

def checkFloor (s : RateSettings R) (d : Direction) : Except (RateFault R) Unit :=
  if s.floorFits d then .ok () else .error (.rateFloor d s.rateFloorKbit (s.maxRate d))

/-- The first fault of the settings, if there is any. -/
def validate (s : RateSettings R) : Except (RateFault R) Unit := do
  s.checkFloor .uplink
  s.checkFloor .downlink
  if s.minRtt.isZero || s.maxRtt < s.minRtt then .error (.rttBounds s.minRtt s.maxRtt)
  if !(below 0.0 s.backoffFraction && below s.backoffFraction 1.0) then
    .error (.backoffFraction s.backoffFraction)
  if !(below 0.0 s.cubicConstant && isFinite s.cubicConstant) then
    .error (.cubicConstant s.cubicConstant)
  if !(atMost 0.0 s.splitGsoThresholdKbit && isFinite s.splitGsoThresholdKbit) then
    .error (.splitGsoThreshold s.splitGsoThresholdKbit)

end RateSettings
end AdaptiveShaper
