import AdaptiveShaper.Decimal.Basic
import AdaptiveShaper.Host.Execution
import AdaptiveShaper.Host.Script
import AdaptiveShaper.Text.Basic

/-!
# Programs of a host

A host with the usual small programs and with files that may be scripts. Of a script it is said what
it writes on its error output, how long it takes, and how it ends; time is what commands sleep.
-/

namespace AdaptiveShaper

/-! ## Shell scripts -/

namespace Shell

/-- Where output goes. -/
inductive Sink where
  | output
  | errors
  | nowhere
  deriving DecidableEq

/-- The state of a script. -/
structure State where
  program : String
  arguments : List String
  /-- The code of the last command. -/
  status : Nat
  stderr : List Nat
  elapsed : Nat
  deriving DecidableEq

/-- What a command leaves: the state, and how the script ended if it did. -/
structure Step where
  state : State
  ending : Option Ending

def ownProcess : String := "1"

/-- The values of a parameter; only the list of all arguments has more than one. -/
def values (s : State) (name : Char) (quoted : Bool) : List String :=
  if name = '@' ∧ quoted then s.arguments
  else if name = '@' ∨ name = '*' then [String.intercalate " " s.arguments]
  else if name = '#' then [toString s.arguments.length]
  else if name = '$' then [ownProcess]
  else if name = '?' then [toString s.status]
  else if name = '0' then [s.program]
  else [s.arguments.getD (name.toNat - '0'.toNat - 1) ""]

/-- A word while it is built: finished words, and the open one if there is one. -/
structure Building where
  finished : List String
  current : Option (List Char)

namespace Building

def append (b : Building) (cs : List Char) : Building :=
  { b with current := some (b.current.getD [] ++ cs) }

def close (b : Building) : Building :=
  ⟨b.finished ++ b.current.toList.map String.ofList, none⟩

/-- Appends texts that are words of their own, the first and last of them joined to their
neighbours. -/
def appendAll (b : Building) : List String → Building
  | [] => b
  | [s] => b.append s.toList
  | s :: rest => appendAll (b.append s.toList).close rest

def appendSplit (b : Building) (s : String) : Building :=
  s.toList.foldl (fun b c => if c == ' ' || c == '\t' || c == '\n' then b.close else b.append [c]) b

end Building

def expand (s : State) (pieces : List Piece) : List String :=
  (pieces.foldl (fun b p => match p with
    | .text cs => Building.append b cs
    | .parameter name true => b.appendAll (values s name true)
    | .parameter name false => (values s name false).foldl Building.appendSplit b)
    (⟨[], none⟩ : Building)).close.finished

def bytes (cs : List Char) : List Nat :=
  (String.ofList cs).toUTF8.toList.map UInt8.toNat

def octal (cs : List Char) : Nat := cs.foldl (fun n c => 8 * n + (c.toNat - '0'.toNat)) 0 % 256

def isOctal (c : Char) : Bool := '0' ≤ c && c ≤ '7'

def escaped? (c : Char) : Option Char :=
  match c with
  | 'n' => some '\n'
  | 't' => some '\t'
  | 'r' => some '\r'
  | 'a' => some '\x07'
  | 'b' => some '\x08'
  | 'f' => some '\x0c'
  | 'v' => some '\x0b'
  | '\\' => some '\\'
  | _ => none

theorem length_lt_cons_cons (a b : Char) (s : List Char) : s.length < (a :: b :: s).length :=
  Nat.lt_succ_of_lt (Nat.lt_succ_self _)

theorem length_drop_lt (n : Nat) (a b : Char) (s : List Char) :
    (s.drop n).length < (a :: b :: s).length := by
  rw [List.length_drop]
  exact Nat.lt_of_le_of_lt (Nat.sub_le _ _) (length_lt_cons_cons a b s)

/-- The bytes of a text with backslash escapes; `zero` says whether an octal escape begins with an
extra zero. -/
def unescape (zero : Bool) : List Char → List Nat
  | [] => []
  | '\\' :: c :: rest =>
    if isOctal c && (!zero || c == '0') then
      let ds := ((if zero then rest else c :: rest).take 3).takeWhile isOctal
      octal ds :: unescape zero (rest.drop (if zero then ds.length else ds.length - 1))
    else match escaped? c with
      | some e => bytes [e] ++ unescape zero rest
      | none => bytes ['\\', c] ++ unescape zero rest
  | c :: rest => bytes [c] ++ unescape zero rest
termination_by cs => cs.length
decreasing_by
  · exact length_drop_lt _ _ _ _
  · exact length_lt_cons_cons _ _ _
  · exact length_lt_cons_cons _ _ _
  · exact Nat.lt_succ_self _

/-- The bytes of a format with its directives filled in from arguments. -/
def format : List Char → List String → List Nat
  | '%' :: '%' :: rest, args => bytes ['%'] ++ format rest args
  | '%' :: 's' :: rest, args => bytes (args.headD "").toList ++ format rest args.tail
  | '%' :: 'd' :: rest, args => bytes (args.headD "0").toList ++ format rest args.tail
  | '\\' :: '%' :: rest, args => bytes ['\\', '%'] ++ format rest args
  | '\\' :: c :: rest, args =>
    let ds := if isOctal c then ((c :: rest).take 3).takeWhile isOctal else []
    if ds.isEmpty then unescape false ['\\', c] ++ format rest args
    else octal ds :: format (rest.drop (ds.length - 1)) args
  | c :: rest, args => bytes [c] ++ format rest args
  | [], _ => []
termination_by cs => cs.length
decreasing_by all_goals simp <;> omega

/-- The bytes that `echo` writes. -/
def echo : List String → List Nat
  | "-n" :: args => unescape true (String.intercalate " " args).toList
  | args => unescape true (String.intercalate " " args).toList ++ [10]

def signal? (s : String) : Option Nat :=
  match Text.digits? s.toList with
  | some n => some n
  | none =>
    let name := if s.startsWith "SIG" then String.ofList (s.toList.drop 3) else s
    [("HUP", 1), ("INT", 2), ("QUIT", 3), ("ABRT", 6), ("KILL", 9), ("SEGV", 11), ("PIPE", 13),
      ("ALRM", 14), ("TERM", 15)].lookup name

/-- The time of a number of seconds with an optional fraction, in nanoseconds. -/
def seconds? (s : String) : Option Nat := do
  let whole := s.toList.takeWhile (· != '.')
  let fraction := (s.toList.drop (whole.length + 1)).take 9
  let n ← Text.digits? (whole ++ fraction)
  return n * Decimal.tenPow (9 - fraction.length)

/-- Where the output and the errors of a command go. -/
structure Sinks where
  output : Sink
  errors : Sink

def Sinks.redirect (k : Sinks) : Nat → Target → Sinks
  | 1, .channel 2 => { k with output := k.errors }
  | 2, .channel 1 => { k with errors := k.output }
  | 1, .file => { k with output := .nowhere }
  | 2, .file => { k with errors := .nowhere }
  | _, _ => k

def State.write (s : State) (k : Sink) (bs : List Nat) : State :=
  if k = .errors then { s with stderr := s.stderr ++ bs } else s

def State.leave (s : State) (code : Nat) : Step := ⟨{ s with status := code }, none⟩

def invoke (s : State) (k : Sinks) (line : Nat) (name : String) (args : List String) : Step :=
  match name, args with
  | "exit", [] => ⟨s, some (.exited s.status)⟩
  | "exit", n :: _ => ⟨s, some (.exited ((Text.digits? n.toList).getD 2 % 256))⟩
  | "true", _ | ":", _ => s.leave 0
  | "false", _ => s.leave 1
  | "echo", args => (s.write k.output (echo args)).leave 0
  | "printf", f :: args => (s.write k.output (format f.toList args)).leave 0
  | "sleep", n :: _ =>
    match seconds? n with
    | some t => { s with elapsed := s.elapsed + t }.leave 0
    | none => s.leave 1
  | "kill", ["-s", n, process] | "kill", [n, process] =>
    let n := if n.startsWith "-" then String.ofList (n.toList.drop 1) else n
    if process = ownProcess then
      match signal? n with
      | some 0 => s.leave 0
      | some n => ⟨s, some (.killed n)⟩
      | none => s.leave 1
    else s.leave 1
  | "kill", [process] =>
    if process = ownProcess then ⟨s, some (.killed 15)⟩ else s.leave 1
  | _, _ =>
    let told := s.program ++ ": " ++ toString line ++ ": " ++ name ++ ": not found\n"
    (s.write k.errors (bytes told.toList)).leave 127

def replace (s : State) (k : Sinks) (line : Nat) (name : String) (args : List String) : Step :=
  let step := invoke s k line name args
  { step with ending := some (step.ending.getD (.exited step.state.status)) }

def Command.run (c : Command) (s : State) : Step :=
  let k := c.parts.foldl (fun k p => match p with
    | .redirect channel target => Sinks.redirect k channel target
    | .word _ => k) (⟨.output, .errors⟩ : Sinks)
  let words := c.parts.flatMap fun p => match p with
    | .word pieces => expand s pieces
    | .redirect _ _ => []
  match words with
  | [] => ⟨s, none⟩
  | ["exec"] => s.leave 0
  | "exec" :: name :: args => replace s k c.line name args
  | name :: args => invoke s k c.line name args

def Connector.allows (c : Connector) (status : Nat) : Bool :=
  match c with
  | .always => true
  | .onSuccess => status == 0
  | .onFailure => status != 0

def runAll (s : State) : List Command → Step
  | [] => ⟨s, some (.exited s.status)⟩
  | c :: rest =>
    if c.connector.allows s.status then
      let step := c.run s
      if step.ending.isSome then step else runAll step.state rest
    else runAll s rest

/-- What becomes of a script; one that is not understood fails. -/
def run (program : String) (arguments : List String) (text : String) : Execution :=
  match Text.Reader.whole? Read.script text.toList with
  | none => .ended (.exited 2) [] .zero
  | some commands =>
    let step := runAll ⟨program, arguments, 0, [], 0⟩ commands
    .ended (step.ending.getD (.exited 0)) step.state.stderr (.ofNanos step.state.elapsed)

end Shell

/-! ## Files -/

/-- What stands at the path of a program. -/
inductive ProgramNode where
  | missing
  | directory
  | file (executable : Bool) (content : String)

namespace ProgramNode

def interpreter? (content : String) : Option String :=
  match content.toList with
  | '#' :: '!' :: rest =>
    let line := (rest.takeWhile (· != '\n')).dropWhile fun c => c == ' ' || c == '\t'
    some (String.ofList (line.takeWhile fun c => c != ' ' && c != '\t'))
  | _ => none

/-- Programs that end at once, with their codes. -/
def simplePrograms : List (String × Nat) := [("true", 0), ("false", 1), ("echo", 0)]

def spellings (name : String) : List String := [name, "/bin/" ++ name, "/usr/bin/" ++ name]

def simpleCode? (program : String) : Option Nat :=
  (simplePrograms.find? fun p => (spellings p.1).contains program).map Prod.snd

def shells : List String :=
  ["sh", "bash", "dash"].flatMap fun name => ["/bin/" ++ name, "/usr/bin/" ++ name]

def run (path : String) (arguments : List String) : ProgramNode → Execution
  | .missing => .refused .noSuchFile
  | .directory => .refused .permissionDenied
  | .file false _ => .refused .permissionDenied
  | .file true content =>
    match interpreter? content with
    | none => .refused .execFormat
    | some interpreter =>
      if shells.contains interpreter then Shell.run path arguments content
      else match simpleCode? interpreter with
        | some code => .ended (.exited code) [] .zero
        | none => .refused .noSuchFile

end ProgramNode

def Host.usualDirectories : List String :=
  [".", "..", "/", "/bin", "/dev", "/etc", "/root", "/tmp", "/usr", "/usr/bin"]

def Host.usualFiles : List String := ["/dev/null", "/etc/hostname", "/etc/hosts", "/etc/passwd"]

def Host.usualNode (path : String) : ProgramNode :=
  if usualDirectories.contains path then .directory
  else if usualFiles.contains path then .file false ""
  else .missing

/-- The host whose files, the usual ones apart, are given by their paths. -/
def Host.ofFiles (node : String → ProgramNode) : Host where
  execute program arguments :=
    match ProgramNode.simpleCode? program with
    | some code => .ended (.exited code) [] .zero
    | none =>
      match node program with
      | .missing => (usualNode program).run program arguments
      | found => found.run program arguments

end AdaptiveShaper
