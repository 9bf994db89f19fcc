import AdaptiveShaper.Log.Record
import AdaptiveShaper.Program.Session
import AdaptiveShaper.Shaper.Actuator

/-!
# The program

The outer layer: it asks the host for the command line, the environment, the settings file, the
input and the time, and lets a `Run` follow the clock. It starts no other program and opens no
sockets.
-/

namespace AdaptiveShaper
namespace Program

def variableNames : List String :=
  ["RUST_LOG", "CAKERATE_LOG_FORMAT", "CAKERATE_DISABLE_LOGS", "CAKERATE_LOG_TO_STDERR"] ++
    ArgumentKey.all.map ArgumentKey.environmentName

def readEnvironment : IO (String → Option String) := do
  let found ← variableNames.filterMapM fun name => do
    return (← IO.getEnv name).map fun value => (name, value)
  return fun name => found.lookup name

def readFault : IO.Error → ReadFault
  | .noFileOrDirectory .. => .host .noSuchFile
  | .permissionDenied .. => .host .permissionDenied
  | .inappropriateType .. => .host .isDirectory
  | _ => .host .noSuchFile

def readFile (path : String) : IO (Except ReadFault String) := do
  try
    return (FileNode.bytes (← IO.FS.readBinFile path)).text
  catch e => return .error (readFault e)

def writeRecords (l : Logger) (records : List Log.Record) : IO Unit := do
  for r in records do
    if l.writes r then
      let line := if l.json then r.json.compact else r.line
      if l.toStderr then IO.eprintln line else IO.println line

/-- Keeps reading lines of the input for `lines`; an empty list of lines stands for the end. -/
partial def collectInput (input : IO.FS.Stream) (lines : IO.Ref (List (Option String))) :
    IO Unit := do
  let line ← input.getLine
  if line.isEmpty then lines.modify (none :: ·)
  else do
    lines.modify (some line :: ·)
    collectInput input lines

/-- The records of what came in since the last look, and the queue after it. -/
def takeInput (q : IngestQueue) (arrived : List (Option String)) : IngestQueue × List Log.Record :=
  arrived.foldr (fun line (q, records) =>
    match line with
    | none => (q, records ++ [inputClosedRecord])
    | some text =>
      let (q, more) := readLines q (inputLines text)
      (q, records ++ more)) (q, [])

/-- Follows the clock: a look at the input and a step of the run every millisecond. -/
partial def follow {σ : Type} (actuator : Actuator σ) (l : Logger)
    (lines : IO.Ref (List (Option String))) (began : Nat) (run : Run σ) : IO Unit := do
  let arrived ← lines.modifyGet fun ls => (ls, [])
  let (queue, records) := takeInput run.service.queue arrived
  writeRecords l records
  let now ← IO.monoNanosNow
  let due := (now - began) / 1_000_000
  let run := { run with
    service := { run.service with queue := queue }
    clock := ⟨Int.ofNat (now - began)⟩ }
  let (run, events) := run.sleep actuator (due + 1 - run.time / 1_000_000)
  writeRecords l (events.map LoopEvent.record)
  if run.stage.isFinished then return
  IO.sleep 1
  follow actuator l lines began run

def live {σ : Type} (actuator : Actuator σ) (state : σ) (l : Logger) (s : Settings) :
    IO UInt32 := do
  match Service.new s with
  | .error e =>
    IO.eprintln e.message
    return 1
  | .ok service =>
    let lines ← IO.mkRef []
    let input ← IO.getStdin
    let _ ← IO.asTask (collectInput input lines) Task.Priority.dedicated
    writeRecords l (s.metricsAddress.toList.map fun a => pagesStoppedRecord a.foreignFault)
    follow actuator l lines (← IO.monoNanosNow) (Run.new service state)
    return 0

/-- A host that starts no program: setpoints are answered as if the program were missing. -/
def closedHost : Host := ⟨fun _ _ => .refused .noSuchFile⟩

def proceed (start : Start) : IO UInt32 := do
  match start with
  | .help => IO.print helpText
  | .version => IO.print versionText
  | .misuse e => IO.eprint (usageErrorText e)
  | .failed l records e =>
    l.complaints.forM IO.eprintln
    writeRecords l records
    IO.eprintln e.report
  | .ready l records s =>
    l.complaints.forM IO.eprintln
    writeRecords l records
    if s.dryRun then return ← live Actuator.dryRun () l s
    else return ← live (Actuator.trafficControl ⟨s.tcProgram, s.applyTimeout⟩ closedHost) () l s
  return UInt32.ofNat start.exitCode

end Program
end AdaptiveShaper

open AdaptiveShaper in
def main (words : List String) : IO UInt32 := do
  let environment ← Program.readEnvironment
  let path := (Arguments.read words environment).toOption.bind Arguments.config
  let content ← match path with
    | none => pure (.error (.host .noSuchFile))
    | some p => Program.readFile p
  Program.proceed (Program.start words environment fun _ => content)
