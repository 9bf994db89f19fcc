import AdaptiveShaper.Decimal.Layout
import AdaptiveShaper.Text.Basic

/-!
# Spans of time and readings of a clock

A `Span` is a length of time in whole nanoseconds, at most `2^64 - 1` seconds and 999999999
nanoseconds; an `Instant` is a reading of a clock in nanoseconds from a fixed start, for dates the
beginning of 1970. Years are counted from March there; 400 years have 146097 days.
-/

namespace AdaptiveShaper

/-- The greatest span, in nanoseconds: one nanosecond short of `2^64` seconds. -/
def Span.maxNanos : Nat := 0x1_0000_0000_0000_0000 * 1_000_000_000 - 1

/-- A length of time in whole nanoseconds. -/
@[ext] structure Span where
  nanos : Nat
  nanos_le : nanos ≤ Span.maxNanos
  deriving DecidableEq

namespace Span

/-- The span of `n` nanoseconds, or the greatest span if that is longer. -/
def ofNanos (n : Nat) : Span := ⟨min n maxNanos, Nat.min_le_right _ _⟩

/-- The span of `n` milliseconds. -/
def ofMillis (n : Nat) : Span := ofNanos (n * 1_000_000)

/-- The span of `n` seconds. -/
def ofSecs (n : Nat) : Span := ofNanos (n * 1_000_000_000)

def zero : Span := ⟨0, Nat.zero_le _⟩

def longest : Span := ⟨maxNanos, Nat.le_refl _⟩

instance : Inhabited Span := ⟨zero⟩

instance : LE Span := ⟨fun a b => a.nanos ≤ b.nanos⟩

instance : LT Span := ⟨fun a b => a.nanos < b.nanos⟩

instance (a b : Span) : Decidable (a ≤ b) := inferInstanceAs (Decidable (a.nanos ≤ b.nanos))

instance (a b : Span) : Decidable (a < b) := inferInstanceAs (Decidable (a.nanos < b.nanos))

theorem le_iff {a b : Span} : a ≤ b ↔ a.nanos ≤ b.nanos := Iff.rfl

theorem lt_iff {a b : Span} : a < b ↔ a.nanos < b.nanos := Iff.rfl

@[simp] theorem nanos_zero : zero.nanos = 0 := rfl

@[simp] theorem nanos_longest : longest.nanos = maxNanos := rfl

theorem nanos_ofNanos (n : Nat) : (ofNanos n).nanos = min n maxNanos := rfl

def secs (d : Span) : Nat := d.nanos / 1_000_000_000

def subsecNanos (d : Span) : Nat := d.nanos % 1_000_000_000

def millis (d : Span) : Nat := d.nanos / 1_000_000

def micros (d : Span) : Nat := d.nanos / 1_000

def isZero (d : Span) : Bool := d.nanos == 0

/-- The span nearest to `d` between `lo` and `hi`. -/
def clamp (d lo hi : Span) : Span :=
  if d < lo then lo else if hi < d then hi else d

theorem le_clamp {d lo hi : Span} (h : lo ≤ hi) : lo ≤ d.clamp lo hi := by
  unfold clamp
  split
  · exact Nat.le_refl _
  · split
    · exact h
    · next h₁ _ => exact Nat.le_of_not_lt h₁

theorem clamp_le {d lo hi : Span} (h : lo ≤ hi) : d.clamp lo hi ≤ hi := by
  unfold clamp
  split
  · exact h
  · split
    · exact Nat.le_refl _
    · next _ h₂ => exact Nat.le_of_not_lt h₂

/-! ## Spans as text -/

/-- A number of `unit`s counted in parts of `unit / 10^places`, without zeros at the end. -/
def unitText (places n : Nat) (unit : String) : String :=
  let scale := Decimal.tenPow places
  let whole := n / scale
  let part := (Text.padded places (n % scale)).reverse.dropWhile (· = '0') |>.reverse
  let fraction := if n % scale = 0 then [] else '.' :: part
  String.ofList (Nat.toDigits 10 whole ++ fraction ++ unit.toList)

/-- The exact span in seconds, milliseconds, microseconds or nanoseconds. -/
def text (d : Span) : String :=
  if 1_000_000_000 ≤ d.nanos then unitText 9 d.nanos "s"
  else if 1_000_000 ≤ d.nanos then unitText 6 d.nanos "ms"
  else if 1_000 ≤ d.nanos then unitText 3 d.nanos "µs"
  else unitText 0 d.nanos "ns"

/-- The span in nanoseconds, as the nearest binary64 number. -/
def toFloat (d : Span) : Float := Float.ofNat d.nanos

/-- The span in milliseconds and in microseconds, with two places each. -/
def statusText (d : Span) : String :=
  let nanos := d.toFloat
  Decimal.fixedText 2 (nanos / 1000000.0) ++ " ms | " ++
    Decimal.fixedText 2 (nanos / 1000.0) ++ " μs"

end Span

/-! ## Readings of a clock -/

/-- A reading of a clock. -/
@[ext] structure Instant where
  nanos : Int
  deriving DecidableEq

namespace Instant

def start : Instant := ⟨0⟩

/-- The time from `earlier` to `t`, none if `t` is not later. -/
def since (t earlier : Instant) : Span := Span.ofNanos (t.nanos - earlier.nanos).toNat

def advance (t : Instant) (nanos : Int) : Instant := ⟨t.nanos + nanos⟩

end Instant

/-! ## Dates -/

/-- A day of the Gregorian calendar. -/
structure Date where
  year : Int
  month : Nat
  day : Nat
  deriving DecidableEq

namespace Date

/-- The date of the day that comes `days` days after 1 January 1970. -/
def ofDays (days : Int) : Date :=
  let shifted := days + 719468
  let era := shifted / 146097
  let inEra := (shifted % 146097).toNat
  let yearOfEra := (inEra - inEra / 1460 + inEra / 36524 - inEra / 146096) / 365
  let inYear := inEra - (365 * yearOfEra + yearOfEra / 4 - yearOfEra / 100)
  let fromMarch := (5 * inYear + 2) / 153
  let day := inYear - (153 * fromMarch + 2) / 5 + 1
  let month := if fromMarch < 10 then fromMarch + 3 else fromMarch - 9
  let year := yearOfEra + era * 400
  ⟨if month ≤ 2 then year + 1 else year, month, day⟩

def monthName (month : Nat) : String :=
  ["Jan", "Feb", "Mar", "Apr", "May", "Jun", "Jul", "Aug", "Sep", "Oct", "Nov", "Dec"].getD
    (month - 1) ""

/-- The name of the day of the week, `days` days after 1 January 1970. -/
def weekdayName (days : Int) : String :=
  ["Thursday", "Friday", "Saturday", "Sunday", "Monday", "Tuesday", "Wednesday"].getD
    (days % 7).toNat ""

end Date

namespace Instant

def wholeSecs (t : Instant) : Int := t.nanos / 1_000_000_000

/-- Weekday, date and time of day, with a year of two digits. -/
def dateText (t : Instant) : String :=
  let days := t.wholeSecs / 86400
  let ofDay := (t.wholeSecs % 86400).toNat
  let date := Date.ofDays days
  let two (n : Nat) : String := String.ofList (Text.padded 2 n)
  Date.weekdayName days ++ ", " ++ two date.day ++ "-" ++ Date.monthName date.month ++ "-" ++
    two (date.year % 100).toNat ++ " " ++ two (ofDay / 3600) ++ ":" ++ two (ofDay / 60 % 60) ++
    ":" ++ two (ofDay % 60) ++ " UTC"

end Instant
end AdaptiveShaper
