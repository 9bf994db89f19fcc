import AdaptiveShaper.Decimal.Layout
import AdaptiveShaper.Json.Printer
import AdaptiveShaper.Text.Basic
import AdaptiveShaper.Text.Quoted

/-!
# Log records

A log record has a level, the part of the program it comes from, a message, and named fields. A
filter has one threshold for each of some targets; of those whose target begins the target of a
record, the longest decides, and without any the record is not written.
-/

namespace AdaptiveShaper
namespace Log

/-- How grave a record is, the gravest first. -/
inductive Level where
  | error
  | warn
  | info
  | debug
  | trace
  deriving DecidableEq

namespace Level

/-- The position in the order of gravity, from one. -/
def rank : Level → Nat
  | .error => 1
  | .warn => 2
  | .info => 3
  | .debug => 4
  | .trace => 5

def name : Level → String
  | .error => "error"
  | .warn => "warn"
  | .info => "info"
  | .debug => "debug"
  | .trace => "trace"

def upperName (l : Level) : String := String.ofList (l.name.toList.map Char.toUpper)

end Level

/-- The value of a field. A `phrase` is text that was made for reading and stands without quotes. -/
inductive Datum where
  | nat (n : Nat)
  | float (x : Float)
  | bool (b : Bool)
  | string (s : String)
  | phrase (s : String)

def Datum.text : Datum → String
  | .nat n => toString n
  | .float x => Decimal.Layout.pointed.text x
  | .bool b => toString b
  | .string s => Text.quoted s
  | .phrase s => s

/-- One entry of the log. -/
structure Record where
  level : Level
  target : String
  message : String
  fields : List (String × Datum)

def Record.text (r : Record) : String :=
  String.intercalate ", " (r.message :: r.fields.map fun (k, v) => k ++ ": " ++ v.text)

/-! ## Lines -/

def Datum.json : Datum → Json
  | .nat n => .nat n
  | .float x => .number x
  | .bool b => .bool b
  | .string s => .string s
  | .phrase s => .string s

namespace Record

def fieldList (r : Record) : List (String × Json) := r.fields.map fun (k, v) => (k, v.json)

def fieldsJson (r : Record) : Json := .object r.fieldList

def json (r : Record) : Json :=
  .object [("level", .string r.level.upperName),
    ("fields", .object (("message", .string r.message) :: r.fieldList)),
    ("target", .string r.target)]

def line (r : Record) : String := r.level.upperName ++ " " ++ r.target ++ ": " ++ r.text

end Record
/-! ## Which records are written -/

/-- The least grave level that is written; nothing is if it is missing. -/
structure Threshold where
  least : Option Level
  deriving DecidableEq

namespace Threshold

def admits (t : Threshold) (l : Level) : Bool :=
  match t.least with
  | none => false
  | some least => l.rank ≤ least.rank

def off : Threshold := ⟨none⟩

/-- The threshold that lets a level and all graver ones through. -/
def upTo (l : Level) : Threshold := ⟨some l⟩

def name (t : Threshold) : String :=
  match t.least with
  | none => "off"
  | some l => l.name

/-- All thresholds, in the order of the numbers that stand for them. -/
def all : List Threshold :=
  [off, upTo .error, upTo .warn, upTo .info, upTo .debug, upTo .trace]

/-- The threshold with a name, in any case. -/
def ofName? (s : String) : Option Threshold :=
  let lower := String.ofList (s.toList.map Char.toLower)
  all.find? fun t => t.name == lower

/-- The threshold that a text stands for: a name, a number, or nothing for errors only. -/
def ofText? (s : String) : Option Threshold :=
  if s.isEmpty then some (upTo .error)
  else match Text.natural? s.toList with
    | some n => all[n]?
    | none => ofName? s

end Threshold

/-- Why a text is no directive. -/
inductive DirectiveFault where
  | form
  | level
  deriving DecidableEq

def DirectiveFault.message : DirectiveFault → String
  | .form => "invalid filter directive"
  | .level =>
    "error parsing level filter: expected one of \"off\", \"error\", \"warn\", \"info\", " ++
      "\"debug\", \"trace\", or a number 0-5"

/-- A threshold for the targets that begin with a text. -/
structure Directive where
  target : String
  threshold : Threshold
  deriving DecidableEq

namespace Directive

def covers (d : Directive) (target : String) : Bool := d.target.toList.isPrefixOf target.toList

def mayBegin (c : Char) : Bool :=
  c.isAlphanum || c == '_' || c == ':' || c == '-' || c == '[' ||
    (127 < c.toNat && Text.isPrintable c)

/-- A directive is a threshold for all targets, a target, or both with an equals sign. Without a
threshold everything is let through. Blanks in front do not count as the beginning, but they count
as characters of what follows. -/
def ofText (s : String) : Except DirectiveFault Directive :=
  let core := Text.trim s.toList
  let n := (core.takeWhile (· != '=')).length
  let target := String.ofList (s.toList.take n)
  let level := s.toList.drop (n + 1)
  if !(core.take 1).any mayBegin then .error .form
  else if n = core.length then
    match Threshold.ofText? s with
    | some t => .ok ⟨"", t⟩
    | none => .ok ⟨s, .upTo .trace⟩
  else if level.isEmpty then .ok ⟨target, .upTo .trace⟩
  else match Threshold.ofText? (String.ofList level) with
    | some t => .ok ⟨target, t⟩
    | none => .error .level

end Directive

/-- Directives with different targets. -/
structure Filter where
  directives : List Directive
  deriving DecidableEq

namespace Filter

def add (f : Filter) (d : Directive) : Filter :=
  ⟨d :: f.directives.filter fun e => e.target != d.target⟩

def deciding? (f : Filter) (target : String) : Option Directive :=
  (f.directives.filter fun d => d.covers target).foldl
    (fun best d => match best with
      | none => some d
      | some b => if b.target.length < d.target.length then some d else some b) none

def admits (f : Filter) (r : Record) : Bool :=
  match f.deciding? r.target with
  | none => false
  | some d => d.threshold.admits r.level

def parts (s : String) : List String := (s.splitOn ",").filter fun p => !p.isEmpty

/-- The filter that a text describes, or a filter with one threshold if the text has no directive.
-/
def ofText (s : String) (otherwise : Threshold) : Filter :=
  match (parts s).filterMap fun p => (Directive.ofText p).toOption with
  | [] => ⟨[⟨"", otherwise⟩]⟩
  | ds => ds.foldl add ⟨[]⟩

/-- What is said about the parts of a text that are no directives. -/
def complaints (s : String) : List String :=
  (parts s).filterMap fun p => match Directive.ofText p with
    | .ok _ => none
    | .error fault => some ("ignoring `" ++ p ++ "`: " ++ fault.message)

end Filter
end Log
end AdaptiveShaper
