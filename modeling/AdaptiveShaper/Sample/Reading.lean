import AdaptiveShaper.Text.Basic
import AdaptiveShaper.Text.Quoted
import AdaptiveShaper.Time.Span

/-!
# Reading round-trip time samples

A sample is written as a whole number with an optional unit, blanks allowed around both: `42ms`,
`42000000`. Without a unit the number counts nanoseconds.
-/

namespace AdaptiveShaper

/-- Why a round-trip time sample is not taken. -/
inductive SampleError where
  | nonPositive (nanos : Int)
  | outOfRange (span : Span)
  | malformed (text : String)
  | queueFull
  | stopped
  deriving DecidableEq

def SampleError.message : SampleError → String
  | .nonPositive n => "non-positive rtt duration: " ++ toString n ++ "ns"
  | .outOfRange d => "rtt duration out of range: " ++ d.text
  | .malformed text => "malformed rtt sample: " ++ Text.quoted text
  | .queueFull => "ingestion queue full, sample dropped"
  | .stopped => "control loop stopped"

namespace Sample

/-- Units that a sample may be given in. -/
inductive TimeUnit where
  | nanosecond
  | microsecond
  | millisecond
  | second
  deriving DecidableEq

def TimeUnit.nanos : TimeUnit → Nat
  | .nanosecond => 1
  | .microsecond => 1_000
  | .millisecond => 1_000_000
  | .second => 1_000_000_000

/-- The marks of the units, the ones that end in another mark before that one. -/
def unitMarks : List (List Char × TimeUnit) :=
  [(['n', 's'], .nanosecond), (['u', 's'], .microsecond), (['µ', 's'], .microsecond),
    (['m', 's'], .millisecond), (['s'], .second)]

/-- The text before `mark`, if `s` ends in it. -/
def beforeMark? (mark s : List Char) : Option (List Char) :=
  if mark.isSuffixOf s then some (s.take (s.length - mark.length)) else none

/-- The text before the unit, and the unit; nanoseconds if there is no mark. -/
def splitUnit (s : List Char) : List Char × TimeUnit :=
  (unitMarks.findSome? fun (mark, unit) => (beforeMark? mark s).map fun rest => (rest, unit)).getD
    (s, .nanosecond)

/-- The number and the unit of a trimmed sample, if it is well formed. -/
def readNumeral (s : List Char) : Option (Int × TimeUnit) := do
  let (number, unit) := splitUnit s
  let n ← Text.integer? (Text.trim number)
  if Text.inInt64 n then some (n, unit) else none

def readSample (input : String) : Except SampleError Span :=
  let s := Text.trim input.toList
  match readNumeral s with
  | none => .error (.malformed (String.ofList s))
  | some (n, unit) =>
    if n ≤ 0 then .error (.nonPositive n) else .ok (.ofNanos (n.toNat * unit.nanos))

end Sample
end AdaptiveShaper
