import AdaptiveShaper.Json.Printer
import AdaptiveShaper.Rate.Controller
import AdaptiveShaper.Shaper.Health
import AdaptiveShaper.Time.Span

/-!
# Status

The figures that a control loop publishes after each tick, and the status document that shows them:
every figure as a number and, where people read it, also as text with its units.
-/

namespace AdaptiveShaper

/-- The published figures. -/
structure Snapshot where
  rttAverage : Span
  rateAverage : Both Float
  rateMedian : Both Float
  /-- How many round-trip times the window retains. -/
  sampleCount : Nat
  windowCapacity : Nat
  applyLast : Span
  applyAverage : Span
  /-- Missing before the first tick. -/
  controller : Option (RateStats Float)
  health : Both Health
  ingestionErrors : Nat
  droppedSamples : Nat
  ticks : Nat

/-- A rate in kbit and in Mbit, with two places each. -/
def rateText (kbit : Float) : String :=
  Decimal.fixedText 2 kbit ++ " kbit | " ++ Decimal.fixedText 2 (kbit / 1000.0) ++ " Mbit"

namespace Snapshot

def empty (windowCapacity : Nat) : Snapshot where
  rttAverage := Span.zero
  rateAverage := Both.same 0.0
  rateMedian := Both.same 0.0
  sampleCount := 0
  windowCapacity := windowCapacity
  applyLast := Span.zero
  applyAverage := Span.zero
  controller := none
  health := Both.same Health.fresh
  ingestionErrors := 0
  droppedSamples := 0
  ticks := 0

def dataTotal (s : Snapshot) : String :=
  toString s.sampleCount ++ " of " ++ toString s.windowCapacity

def degraded (s : Snapshot) : Bool := s.health.any Health.degraded

end Snapshot

/-- A span in nanoseconds, modulo `2^64`. -/
def Span.nanosJson (d : Span) : Json := .nat (d.nanos % 0x1_0000_0000_0000_0000)

def Span.partsJson (d : Span) : Json :=
  .object [("secs", .nat d.secs), ("nanos", .nat d.subsecNanos)]

def Setpoint.json (s : Setpoint Float) : Json :=
  .object [("direction", .string s.direction.name), ("rateKbit", .number s.rateKbit),
    ("rttMicros", .nat s.rttMicros.toNat), ("splitGso", .bool s.splitGso)]

def RateStats.json (s : RateStats Float) : Json :=
  .object [("state", .string s.phase.name), ("uploadKbit", .number s.rate.uplink),
    ("downloadKbit", .number s.rate.downlink),
    ("referenceUploadKbit", .number s.reference.uplink),
    ("referenceDownloadKbit", .number s.reference.downlink),
    ("rttTarget", s.rttTarget.partsJson), ("splitGso", .bool s.splitGso),
    ("sinceLastBackoffSecs", .orNull .number s.sinceLastBackoffSecs),
    ("totalBackoffs", .nat s.totalBackoffs), ("totalRecoveries", .nat s.totalRecoveries),
    ("totalTicks", .nat s.totalTicks)]

def Health.json (h : Health) : Json :=
  .object [("consecutiveFailures", .nat h.consecutiveFailures),
    ("totalFailures", .nat h.totalFailures), ("totalApplies", .nat h.totalApplies),
    ("degraded", .bool h.degraded), ("appliedLastTick", .bool h.appliedLastTick),
    ("lastApplied", .orNull Setpoint.json h.lastApplied),
    ("lastError", .orNull .string h.lastError)]

namespace Snapshot

def json (s : Snapshot) : Json :=
  .object [("rttAverage", s.rttAverage.nanosJson),
    ("rttAverageString", .string s.rttAverage.statusText),
    ("bwUpAverage", .number s.rateAverage.uplink),
    ("bwUpAverageString", .string (rateText s.rateAverage.uplink)),
    ("bwDownAverage", .number s.rateAverage.downlink),
    ("bwDownAverageString", .string (rateText s.rateAverage.downlink)),
    ("bwUpMedian", .number s.rateMedian.uplink),
    ("bwUpMedianString", .string (rateText s.rateMedian.uplink)),
    ("bwDownMedian", .number s.rateMedian.downlink),
    ("bwDownMedianString", .string (rateText s.rateMedian.downlink)),
    ("dataTotal", .string s.dataTotal), ("sampleCount", .nat s.sampleCount),
    ("windowCapacity", .nat s.windowCapacity),
    ("execTimeLast", s.applyLast.nanosJson), ("execTimeCAKE", .string s.applyLast.statusText),
    ("execTimeAverage", s.applyAverage.nanosJson),
    ("execTimeAverageCAKE", .string s.applyAverage.statusText),
    ("controller", .orNull RateStats.json s.controller),
    ("health", .object [("uplink", s.health.uplink.json), ("downlink", s.health.downlink.json)]),
    ("degraded", .bool s.degraded), ("ingestionErrors", .nat s.ingestionErrors),
    ("droppedSamples", .nat s.droppedSamples), ("ticks", .nat s.ticks)]

end Snapshot

/-! ## Pages -/

/-- The answer to a request. -/
structure Response where
  status : Nat
  contentType : Option String
  body : String
  deriving DecidableEq

/-- The pages there are. -/
inductive Page where
  | banner
  | document
  deriving DecidableEq

namespace Page

/-- The path of a request target, without query and fragment. -/
def path (target : String) : String :=
  String.ofList (target.toList.takeWhile fun c => c != '?' && c != '#')

def at? (path : String) : Option Page :=
  if path = "/" then some .banner else if path = "/cake" then some .document else none

/-- What the pages show. -/
structure View where
  snapshot : Snapshot
  /-- When the pages were first there, by the wall clock. -/
  opened : Instant
  /-- The reading of the wall clock. -/
  now : Instant

def bannerText (v : View) : String :=
  let rule := "\n •===========================• \n"
  let elapsed := (v.now.since v.opened).secs
  rule ++ " • [SERVER STATUS] \n • Last Modified: " ++ v.now.dateText ++ " \n • Control Ticks: " ++
    toString v.snapshot.ticks ++ " \n • Time Elapsed: " ++ toString elapsed ++ "s " ++ rule ++ "\n"

def contentType : Page → String
  | .banner => "text/plain; charset=utf-8"
  | .document => "application/json"

def body (v : View) : Page → String
  | .banner => bannerText v
  | .document => v.snapshot.json.document

def notFound : Response := ⟨404, some "text/plain; charset=utf-8", "[404] NOT FOUND"⟩

def notAllowed : Response := ⟨405, none, ""⟩

def respond (v : View) (method target : String) : Response :=
  match at? (path target) with
  | none => notFound
  | some p =>
    if method = "GET" then ⟨200, some p.contentType, p.body v⟩
    else if method = "HEAD" then ⟨200, some p.contentType, ""⟩
    else notAllowed

end Page
end AdaptiveShaper
