import AdaptiveShaper.Host.Execution
import AdaptiveShaper.Settings.Basic
import AdaptiveShaper.Toml.Document

/-!
# Loading settings

The settings of a program run are the standard ones, changed by a settings file if there is one,
then changed by overrides, and checked only then: an override can mend a bad value of the file.
-/

namespace AdaptiveShaper

/-! ## Settings files -/

namespace SettingsFile

open Toml (Item Table Value)

/-- The setting `key`, if the file gives it; fails on a value of another kind. -/
def read? {α : Type} (t : Table) (convert : Value → Option α) (key : String) :
    Option (Option α) :=
  match t.find? key with
  | none => some none
  | some (.value v) => (convert v).map some
  | some _ => none

def text? : Value → Option String
  | .string s => some s
  | _ => none

def rate? : Value → Option Float
  | .float x => some x
  | .integer n => some (Float.ofInt n)
  | _ => none

/-- A whole number from zero to below `limit`. -/
def count? (limit : Nat) : Value → Option Nat
  | .integer n => if 0 ≤ n ∧ n < limit then some n.toNat else none
  | _ => none

def switch? : Value → Option Bool
  | .boolean b => some b
  | _ => none

def address? : Value → Option SocketAddress
  | .string s => SocketAddress.ofText? s
  | _ => none

def ofTable? (t : Table) : Option Overrides := do
  let count := read? t (count? 0x1_0000_0000_0000_0000)
  let rate := read? t rate?
  let text := read? t text?
  return {
    uplinkInterface := ← text "uplink-interface"
    downlinkInterface := ← text "downlink-interface"
    maxUploadKbit := ← rate "max-upload-kbit"
    maxDownloadKbit := ← rate "max-download-kbit"
    rateFloorKbit := ← rate "rate-floor-kbit"
    minRttMs := ← count "min-rtt-ms"
    maxRttMs := ← count "max-rtt-ms"
    initialRttMs := ← count "initial-rtt-ms"
    backoffFraction := ← rate "backoff-fraction"
    cubicConstant := ← rate "cubic-c"
    splitGsoThresholdKbit := ← rate "split-gso-threshold-kbit"
    windowCapacity := ← count "window-capacity"
    tickIntervalMs := ← count "tick-interval-ms"
    failureThreshold := ← read? t (count? 0x1_0000_0000) "failure-threshold"
    applyTimeoutMs := ← count "apply-timeout-ms"
    ingestQueueCapacity := ← count "ingest-queue-capacity"
    tcProgram := ← text "tc-binary"
    dryRun := (← read? t switch? "dry-run").getD false
    metricsAddress := ← read? t address? "metrics-address" }

def ofText? (text : String) : Option Overrides := Toml.document? text >>= ofTable?

end SettingsFile

def Settings.fileEntries (s : Settings) : List (String × String) :=
  let rate := Decimal.Layout.settings.text
  let count (n : Nat) := toString n
  [("uplink-interface", Toml.stringText s.interfaces.uplink),
    ("downlink-interface", Toml.stringText s.interfaces.downlink),
    ("max-upload-kbit", rate s.rate.maxUploadKbit),
    ("max-download-kbit", rate s.rate.maxDownloadKbit),
    ("rate-floor-kbit", rate s.rate.rateFloorKbit),
    ("min-rtt-ms", count s.rate.minRtt.millis),
    ("max-rtt-ms", count s.rate.maxRtt.millis),
    ("initial-rtt-ms", count s.rate.initialRtt.millis),
    ("backoff-fraction", rate s.rate.backoffFraction),
    ("cubic-c", rate s.rate.cubicConstant),
    ("split-gso-threshold-kbit", rate s.rate.splitGsoThresholdKbit),
    ("window-capacity", count s.windowCapacity),
    ("tick-interval-ms", count s.tickInterval.millis),
    ("failure-threshold", count s.failureThreshold),
    ("apply-timeout-ms", count s.applyTimeout.millis),
    ("ingest-queue-capacity", count s.ingestQueueCapacity),
    ("tc-binary", Toml.stringText s.tcProgram),
    ("dry-run", toString s.dryRun)] ++
    s.metricsAddress.toList.map fun a => ("metrics-address", Toml.stringText a.text)

def Settings.fileText (s : Settings) : String :=
  String.join (s.fileEntries.map fun (k, v) => k ++ " = " ++ v ++ "\n")

/-! ## Sources -/

/-- Why a text file cannot be read. -/
inductive ReadFault where
  | host (error : OsError)
  | notText
  deriving DecidableEq

def ReadFault.message : ReadFault → String
  | .host e => e.message
  | .notText => "stream did not contain valid UTF-8"

/-- What stands at a path. -/
inductive FileNode where
  | missing
  | directory
  | bytes (content : ByteArray)

def FileNode.text : FileNode → Except ReadFault String
  | .missing => .error (.host .noSuchFile)
  | .directory => .error (.host .isDirectory)
  | .bytes content =>
    match String.fromUTF8? content with
    | some text => .ok text
    | none => .error .notText

/-- Why there are no settings. -/
inductive LoadError where
  | unreadable (path : String) (fault : ReadFault)
  | malformed (path : String)
  | invalid (fault : SettingsFault)

namespace LoadError

def context : LoadError → String
  | .unreadable path _ => "reading configuration file " ++ path
  | .malformed path => "parsing configuration file " ++ path
  | .invalid _ => "invalid configuration"

/-- What went wrong; nothing is said about a text that is not understood. -/
def cause? : LoadError → Option String
  | .unreadable _ fault => some fault.message
  | .malformed _ => none
  | .invalid fault => some fault.message

def message (e : LoadError) : String :=
  match e.cause? with
  | none => e.context
  | some cause => e.context ++ ": " ++ cause

def report (e : LoadError) : String :=
  "Error: " ++ e.context ++ match e.cause? with
    | none => ""
    | some cause => "\n\nCaused by:\n    " ++ cause

end LoadError

namespace SettingsFile

def load (read : String → Except ReadFault String) (path : String) : Except LoadError Overrides :=
  match read path with
  | .error fault => .error (.unreadable path fault)
  | .ok text =>
    match ofText? text with
    | none => .error (.malformed path)
    | some overrides => .ok overrides

def loadOptional (read : String → Except ReadFault String) :
    (path : Option String) → Except LoadError Overrides
  | none => .ok .none
  | some path => load read path

end SettingsFile

/-- The settings of a program run, checked. -/
def Settings.load (read : String → Except ReadFault String) (path : Option String)
    (overrides : Overrides) : Except LoadError Settings := do
  let file ← SettingsFile.loadOptional read path
  let s := overrides.apply (file.apply .standard)
  s.validate.mapError .invalid
  return s

end AdaptiveShaper
