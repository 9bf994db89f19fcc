import AdaptiveShaper.Decimal.Basic
import AdaptiveShaper.Log.Record
import AdaptiveShaper.Settings.Basic

/-!
# Arguments of the program

What can be given on the command line or by environment variables, under which names, and how each
value is read.
-/

namespace AdaptiveShaper

/-- What can be given. -/
inductive ArgumentKey where
  | config
  | logLevel
  | uplinkInterface
  | downlinkInterface
  | maxUploadKbit
  | maxDownloadKbit
  | rateFloorKbit
  | windowCapacity
  | tickIntervalMs
  | minRttMs
  | maxRttMs
  | initialRttMs
  | backoffFraction
  | cubicConstant
  | splitGsoThresholdKbit
  | failureThreshold
  | applyTimeoutMs
  | ingestQueueCapacity
  | tcProgram
  | dryRun
  | metricsAddress
  deriving DecidableEq

namespace ArgumentKey

/-- All keys, in the order in which the environment is asked for them. -/
def all : List ArgumentKey :=
  [.config, .logLevel, .uplinkInterface, .downlinkInterface, .maxUploadKbit, .maxDownloadKbit,
    .rateFloorKbit, .windowCapacity, .tickIntervalMs, .minRttMs, .maxRttMs, .initialRttMs,
    .backoffFraction, .cubicConstant, .splitGsoThresholdKbit, .failureThreshold, .applyTimeoutMs,
    .ingestQueueCapacity, .tcProgram, .dryRun, .metricsAddress]

def name : ArgumentKey → String
  | .config => "config"
  | .logLevel => "log-level"
  | .uplinkInterface => "uplink-interface"
  | .downlinkInterface => "downlink-interface"
  | .maxUploadKbit => "max-upload-kbit"
  | .maxDownloadKbit => "max-download-kbit"
  | .rateFloorKbit => "rate-floor-kbit"
  | .windowCapacity => "window-capacity"
  | .tickIntervalMs => "tick-interval-ms"
  | .minRttMs => "min-rtt-ms"
  | .maxRttMs => "max-rtt-ms"
  | .initialRttMs => "initial-rtt-ms"
  | .backoffFraction => "backoff-fraction"
  | .cubicConstant => "cubic-c"
  | .splitGsoThresholdKbit => "split-gso-threshold-kbit"
  | .failureThreshold => "failure-threshold"
  | .applyTimeoutMs => "apply-timeout-ms"
  | .ingestQueueCapacity => "ingest-queue-capacity"
  | .tcProgram => "tc-binary"
  | .dryRun => "dry-run"
  | .metricsAddress => "metrics-address"

def ofName? (name : String) : Option ArgumentKey := all.find? fun k => k.name == name

def environmentName (k : ArgumentKey) : String :=
  "CAKERATE_" ++ String.ofList (k.name.toList.map fun c => if c = '-' then '_' else c.toUpper)

def takesValue (k : ArgumentKey) : Bool := k != .dryRun

end ArgumentKey

/-- What was given. -/
structure Arguments where
  /-- The path of the settings file. -/
  config : Option String
  logLevel : Option Log.Threshold
  overrides : Overrides

/-- Why a value is refused: the argument does not take it, or it is no text of the argument's type.
-/
inductive ValueFault where
  | notTaken
  | unreadable
  deriving DecidableEq

namespace Arguments

def none : Arguments := ⟨.none, .none, .none⟩

/-- A path, which must not be empty. -/
def path (text : String) : Except ValueFault String :=
  if text.isEmpty then .error .notTaken else .ok text

def readBy {α : Type} (read : List Char → Option α) (text : String) : Except ValueFault α :=
  match read text.toList with
  | some a => .ok a
  | .none => .error .unreadable

/-- A whole number below `limit`. -/
def count (limit : Nat) (text : String) : Except ValueFault Nat :=
  readBy (fun s => (Text.natural? s).filter fun n => n < limit) text

/-- A whole number below `limit`, which may also be written as minus zero. -/
def signedCount (limit : Nat) (text : String) : Except ValueFault Nat :=
  readBy (fun s => ((Text.integer? s).bind Int.toNat?).filter fun n => n < limit) text

def rate (text : String) : Except ValueFault Float := readBy Decimal.float? text

/-- A truth value, as one of two words. -/
def truth (text : String) : Except ValueFault Bool :=
  if text = "true" then .ok true else if text = "false" then .ok false else .error .notTaken

/-- Takes the text of a value over into the overrides, if the argument is one of them. -/
def override (o : Overrides) (k : ArgumentKey) (text : String) : Except ValueFault Overrides := do
  let wide := (count 0x1_0000_0000_0000_0000 text).map some
  let real := (rate text).map some
  match k with
  | .config | .logLevel => return o
  | .uplinkInterface => return { o with uplinkInterface := some text }
  | .downlinkInterface => return { o with downlinkInterface := some text }
  | .maxUploadKbit => return { o with maxUploadKbit := ← real }
  | .maxDownloadKbit => return { o with maxDownloadKbit := ← real }
  | .rateFloorKbit => return { o with rateFloorKbit := ← real }
  | .windowCapacity => return { o with windowCapacity := ← wide }
  | .tickIntervalMs => return { o with tickIntervalMs := ← wide }
  | .minRttMs => return { o with minRttMs := ← wide }
  | .maxRttMs => return { o with maxRttMs := ← wide }
  | .initialRttMs => return { o with initialRttMs := ← wide }
  | .backoffFraction => return { o with backoffFraction := ← real }
  | .cubicConstant => return { o with cubicConstant := ← real }
  | .splitGsoThresholdKbit => return { o with splitGsoThresholdKbit := ← real }
  | .failureThreshold => 
    return { o with failureThreshold := some (← signedCount 0x1_0000_0000 text) }
  | .applyTimeoutMs => return { o with applyTimeoutMs := ← wide }
  | .ingestQueueCapacity => return { o with ingestQueueCapacity := ← wide }
  | .tcProgram => return { o with tcProgram := some (← path text) }
  | .dryRun => return { o with dryRun := ← truth text }
  | .metricsAddress =>
    return { o with metricsAddress := some (← readBy (SocketAddress.ofText? ∘ String.ofList) text) }

def set (a : Arguments) (k : ArgumentKey) (text : String) : Except ValueFault Arguments := do
  match k with
  | .config => return { a with config := some (← path text) }
  | .logLevel =>
    return { a with logLevel := some (← readBy (Log.Threshold.ofText? ∘ String.ofList) text) }
  | _ => return { a with overrides := ← override a.overrides k text }

end Arguments
end AdaptiveShaper
