import AdaptiveShaper.Host.SocketAddress
import AdaptiveShaper.Rate.Settings
import AdaptiveShaper.Text.Basic

/-!
# Settings of the program

All that can be set from outside. A source of settings, such as a file or a command line, gives some
of them; `Overrides.apply` puts what is given in the place of what was there.
-/

namespace AdaptiveShaper

/-- The settings of the program. -/
structure Settings where
  interfaces : Both String
  rate : RateSettings Float
  /-- The capacity of the windows of round-trip times, rates and apply times. -/
  windowCapacity : Nat
  tickInterval : Span
  failureThreshold : Nat
  applyTimeout : Span
  ingestQueueCapacity : Nat
  /-- The traffic control program. -/
  tcProgram : String
  /-- Whether commands are only logged. -/
  dryRun : Bool
  /-- Where the status pages are served, if they are. -/
  metricsAddress : Option SocketAddress

/-- Settings that must not be zero. -/
inductive PositiveSetting where
  | windowCapacity
  | tickInterval
  | failureThreshold
  | applyTimeout
  | ingestQueueCapacity
  deriving DecidableEq

def PositiveSetting.key : PositiveSetting → String
  | .windowCapacity => "window-capacity"
  | .tickInterval => "tick-interval-ms"
  | .failureThreshold => "failure-threshold"
  | .applyTimeout => "apply-timeout-ms"
  | .ingestQueueCapacity => "ingest-queue-capacity"

/-- Why settings are refused. -/
inductive SettingsFault where
  | emptyInterface (direction : Direction)
  | rate (fault : RateFault Float)
  | zero (setting : PositiveSetting)

def SettingsFault.message : SettingsFault → String
  | .emptyInterface d => d.name ++ " interface name must not be empty"
  | .rate fault => fault.message
  | .zero setting => setting.key ++ " must be greater than zero"

namespace Settings

def standard : Settings where
  interfaces := ⟨"enp3s0", "ifb4enp3s0"⟩
  rate := .standard
  windowCapacity := 10000
  tickInterval := .ofMillis 10
  failureThreshold := 5
  applyTimeout := .ofSecs 2
  ingestQueueCapacity := 65536
  tcProgram := "tc"
  dryRun := false
  metricsAddress := none

def checkInterface (s : Settings) (d : Direction) : Except SettingsFault Unit :=
  if (Text.trim (s.interfaces.get d).toList).isEmpty then .error (.emptyInterface d) else .ok ()

def checkPositive (setting : PositiveSetting) (isZero : Bool) : Except SettingsFault Unit :=
  if isZero then .error (.zero setting) else .ok ()

/-- The first fault of the settings, if there is any. -/
def validate (s : Settings) : Except SettingsFault Unit := do
  s.checkInterface .uplink
  s.checkInterface .downlink
  s.rate.validate.mapError .rate
  checkPositive .windowCapacity (s.windowCapacity == 0)
  checkPositive .tickInterval s.tickInterval.isZero
  checkPositive .failureThreshold (s.failureThreshold == 0)
  checkPositive .applyTimeout s.applyTimeout.isZero
  checkPositive .ingestQueueCapacity (s.ingestQueueCapacity == 0)

end Settings

/-! ## Overrides -/

/-- Settings that may be left out. -/
structure Overrides where
  uplinkInterface : Option String
  downlinkInterface : Option String
  maxUploadKbit : Option Float
  maxDownloadKbit : Option Float
  rateFloorKbit : Option Float
  minRttMs : Option Nat
  maxRttMs : Option Nat
  initialRttMs : Option Nat
  backoffFraction : Option Float
  cubicConstant : Option Float
  splitGsoThresholdKbit : Option Float
  windowCapacity : Option Nat
  tickIntervalMs : Option Nat
  failureThreshold : Option Nat
  applyTimeoutMs : Option Nat
  ingestQueueCapacity : Option Nat
  tcProgram : Option String
  /-- Asks for a dry run; it cannot be taken back. -/
  dryRun : Bool
  metricsAddress : Option SocketAddress

namespace Overrides

def none : Overrides where
  uplinkInterface := .none
  downlinkInterface := .none
  maxUploadKbit := .none
  maxDownloadKbit := .none
  rateFloorKbit := .none
  minRttMs := .none
  maxRttMs := .none
  initialRttMs := .none
  backoffFraction := .none
  cubicConstant := .none
  splitGsoThresholdKbit := .none
  windowCapacity := .none
  tickIntervalMs := .none
  failureThreshold := .none
  applyTimeoutMs := .none
  ingestQueueCapacity := .none
  tcProgram := .none
  dryRun := false
  metricsAddress := .none

/-- A number of milliseconds, or the span that was there. -/
def millisOr (ms : Option Nat) (d : Span) : Span :=
  match ms with
  | some n => .ofMillis n
  | .none => d

def applyRate (o : Overrides) (s : RateSettings Float) : RateSettings Float where
  maxUploadKbit := o.maxUploadKbit.getD s.maxUploadKbit
  maxDownloadKbit := o.maxDownloadKbit.getD s.maxDownloadKbit
  rateFloorKbit := o.rateFloorKbit.getD s.rateFloorKbit
  minRtt := millisOr o.minRttMs s.minRtt
  maxRtt := millisOr o.maxRttMs s.maxRtt
  initialRtt := millisOr o.initialRttMs s.initialRtt
  backoffFraction := o.backoffFraction.getD s.backoffFraction
  cubicConstant := o.cubicConstant.getD s.cubicConstant
  splitGsoThresholdKbit := o.splitGsoThresholdKbit.getD s.splitGsoThresholdKbit

def apply (o : Overrides) (s : Settings) : Settings where
  interfaces := ⟨o.uplinkInterface.getD s.interfaces.uplink,
    o.downlinkInterface.getD s.interfaces.downlink⟩
  rate := o.applyRate s.rate
  windowCapacity := o.windowCapacity.getD s.windowCapacity
  tickInterval := millisOr o.tickIntervalMs s.tickInterval
  failureThreshold := o.failureThreshold.getD s.failureThreshold
  applyTimeout := millisOr o.applyTimeoutMs s.applyTimeout
  ingestQueueCapacity := o.ingestQueueCapacity.getD s.ingestQueueCapacity
  tcProgram := o.tcProgram.getD s.tcProgram
  dryRun := s.dryRun || o.dryRun
  metricsAddress := o.metricsAddress.orElse fun _ => s.metricsAddress

end Overrides
end AdaptiveShaper
