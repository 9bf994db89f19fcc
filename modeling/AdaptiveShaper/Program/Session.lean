import AdaptiveShaper.CommandLine.Reading
import AdaptiveShaper.Control.Run
import AdaptiveShaper.Log.Record
import AdaptiveShaper.Settings.Load

/-!
# Sessions of the program

The command line and the environment decide what the program does. A session runs the control loop,
reads samples from its input line by line, serves the status pages if they have an address, and ends
with a termination signal.
-/

namespace AdaptiveShaper

/-! ## Starting -/

namespace Program

def name : String := "cakerate"

def version : String := "0.1.0"

def versionText : String := name ++ " " ++ version ++ "\n"

/-- How log records are written. -/
structure Logger where
  filter : Log.Filter
  enabled : Bool
  toStderr : Bool
  json : Bool
  /-- What is said about directives that are not understood. -/
  complaints : List String

namespace Logger

/-- The logger for a threshold from the command line and the environment. A filter in the
environment goes before the threshold; without either, records up to `debug` are written. -/
def new (level : Option Log.Threshold) (environment : String → Option String) : Logger :=
  let directives := (environment "RUST_LOG").getD ""
  let format := (environment "CAKERATE_LOG_FORMAT").getD ""
  { filter := (Log.Filter.ofText directives (level.getD (.upTo .debug))).add
      ⟨"hyper", .upTo .warn⟩
    enabled := (environment "CAKERATE_DISABLE_LOGS").isNone
    toStderr := (environment "CAKERATE_LOG_TO_STDERR").isSome
    json := String.ofList (format.toList.map Char.toLower) = "json"
    complaints := Log.Filter.complaints directives }

def writes (l : Logger) (r : Log.Record) : Bool := l.enabled && l.filter.admits r

end Logger

def startingRecord : Log.Record :=
  ⟨.info, "cakerate", "Starting cakerate", [("version", .string version)]⟩

def readingRecord (path : String) : Log.Record :=
  ⟨.debug, "cakerate::config", "Reading configuration file", [("path", .phrase (Text.quoted path))]⟩

def loadRecords (read : String → Except ReadFault String) (path : Option String) :
    List Log.Record :=
  path.toList.filterMap fun p => if (read p).isOk then some (readingRecord p) else none

/-- What comes of a start. -/
inductive Start where
  | help
  | version
  | misuse (error : UsageError)
  | failed (logger : Logger) (records : List Log.Record) (error : LoadError)
  | ready (logger : Logger) (records : List Log.Record) (settings : Settings)

def start (words : List String) (environment : String → Option String)
    (read : String → Except ReadFault String) : Start :=
  match Arguments.read words environment with
  | .error .help => .help
  | .error .version => .version
  | .error (.misuse e) => .misuse e
  | .ok a =>
    let logger := Logger.new a.logLevel environment
    let records := startingRecord :: loadRecords read a.config
    match Settings.load read a.config a.overrides with
    | .error e => .failed logger records e
    | .ok s => .ready logger records s

def usageErrorText (e : UsageError) : String :=
  let reason := match e with
    | .unknownArgument => "unexpected argument"
    | .invalidValue => "a value is required or is not taken"
    | .valueValidation => "invalid value"
    | .argumentConflict => "an argument cannot be used multiple times"
    | .tooManyValues => "unexpected value for a flag"
  "error: " ++ reason ++ "\n\nFor more information, try '--help'.\n"

def helpText : String :=
  "Usage: " ++ name ++ " [OPTIONS]\n\nOptions:\n" ++
    String.join (ArgumentKey.all.map fun k =>
      "      --" ++ k.name ++ (if k.takesValue then " <VALUE>" else "") ++
        " [env: " ++ k.environmentName ++ "]\n") ++
    "  -h, --help\n  -V, --version\n"

def Start.exitCode : Start → Nat
  | .misuse _ => 2
  | .failed .. => 1
  | _ => 0

end Program

/-! ## Termination signals -/

/-- Signals that ask a program to end. -/
inductive Signal where
  | terminate
  | interrupt
  | hangUp
  deriving DecidableEq

/-- Why a hook cannot be registered. -/
inductive SignalFault where
  | alreadyRegistered
  deriving DecidableEq

def SignalFault.message : SignalFault → String
  | .alreadyRegistered => "Ctrl-C error: Ctrl-C signal handler already registered"

/-- Whether there is a hook. -/
structure SignalHook where
  registered : Bool
  deriving DecidableEq

namespace SignalHook

def unregistered : SignalHook := ⟨false⟩

def register (h : SignalHook) : Except SignalFault SignalHook :=
  if h.registered then .error .alreadyRegistered else .ok ⟨true⟩

def record : Log.Record :=
  ⟨.info, "cakerate::util", "Received termination signal, stopping control loop", []⟩

/-- What a signal does to the switch, and what is told about it. Without a hook nothing is done. -/
def receive (h : SignalHook) (_ : Signal) (s : Shutdown) : Shutdown × List Log.Record :=
  if h.registered then ({ s with value := true }, [record]) else (s, [])

end SignalHook

/-! ## The session -/

namespace Program

/-- The lines of a text; a carriage return before a line break belongs to the break. -/
def inputLines (text : String) : List String :=
  let parts := text.splitOn "\n"
  let whole := parts.dropLast.map fun line =>
    if line.endsWith "\r" then String.ofList line.toList.dropLast else line
  whole ++ (parts.getLast?.filter fun last => !last.isEmpty).toList

/-- The record of a line that is no sample, or that is not taken. -/
def ignoringRecord (line : String) (e : SampleError) : Log.Record :=
  ⟨.debug, "cakerate", "Ignoring RTT sample",
    [("error", .phrase e.message), ("line", .phrase line)]⟩

/-- Takes a line of the input; blank lines are passed over. -/
def readLine (q : IngestQueue) (line : String) : IngestQueue × List Log.Record :=
  if (Text.trim line.toList).isEmpty then (q, [])
  else
    let reply := q.recordText line
    let told := reply.events.map IngestEvent.record
    match reply.outcome with
    | .ok _ => (reply.queue, told)
    | .error e => (reply.queue, told ++ [ignoringRecord line e])

def readLines (q : IngestQueue) : List String → IngestQueue × List Log.Record
  | [] => (q, [])
  | line :: rest =>
    let (q, records) := readLine q line
    let (q, later) := readLines q rest
    (q, records ++ later)

def inputClosedRecord : Log.Record := ⟨.info, "cakerate", "RTT sample source closed", []⟩

def pagesStoppedRecord (e : OsError) : Log.Record :=
  ⟨.error, "cakerate", "Status endpoint stopped", [("error", .phrase e.message)]⟩

/-- What a session meets from outside. -/
structure Surroundings where
  input : String
  /-- Why an address cannot be bound, if it cannot. -/
  bindFault : SocketAddress → Option OsError
  /-- How many milliseconds after the start the signal comes. -/
  signalAfterMs : Nat
  signal : Signal

def pageRecords (around : Surroundings) (s : Settings) : List Log.Record :=
  s.metricsAddress.toList.filterMap fun a => (around.bindFault a).map pagesStoppedRecord

/-- The log of a session. The input is read when the first ticks are over. -/
def session {σ : Type} (actuator : Actuator σ) (state : σ) (around : Surroundings) (s : Settings) :
    Except SettingsFault (List Log.Record) := do
  let service ← Service.new s
  let (run, ticked) := (Run.new service state).sleep actuator around.signalAfterMs
  let (queue, read) := readLines run.service.queue (inputLines around.input)
  let (shutdown, signalled) := (SignalHook.mk true).receive around.signal run.shutdown
  let told := { run with
    service := { run.service with queue := queue }
    shutdown := shutdown }
  let (_, ended) := told.await actuator
  return pageRecords around s ++ ticked.map LoopEvent.record ++ read ++ [inputClosedRecord] ++
    signalled ++ ended.map LoopEvent.record

end Program
end AdaptiveShaper
