import AdaptiveShaper.Decimal.Layout
import AdaptiveShaper.Text.Basic

/-!
# Setpoints

A setpoint is what the queueing discipline of one direction is set to. `Setpoint.arguments` are the
arguments of the traffic control command, and `Request.ofArguments?` reads them back.
-/

namespace AdaptiveShaper

/-- The way that shaped traffic takes. -/
inductive Direction where
  | uplink
  | downlink
  deriving DecidableEq

namespace Direction

def name : Direction → String
  | .uplink => "uplink"
  | .downlink => "downlink"

theorem name_eq_iff {d e : Direction} : d.name = e.name ↔ d = e := by
  cases d <;> cases e <;> decide

def all : List Direction := [.uplink, .downlink]

end Direction

/-- One value for each direction. -/
@[ext] structure Both (α : Type) where
  uplink : α
  downlink : α
  deriving DecidableEq

namespace Both

variable {α β : Type}

def get (b : Both α) : Direction → α
  | .uplink => b.uplink
  | .downlink => b.downlink

def set (b : Both α) (d : Direction) (a : α) : Both α :=
  match d with
  | .uplink => { b with uplink := a }
  | .downlink => { b with downlink := a }

def same (a : α) : Both α := ⟨a, a⟩

def ofFn (f : Direction → α) : Both α := ⟨f .uplink, f .downlink⟩

def map (f : α → β) (b : Both α) : Both β := ⟨f b.uplink, f b.downlink⟩

def swap (b : Both α) : Both α := ⟨b.downlink, b.uplink⟩

def toList (b : Both α) : List α := [b.uplink, b.downlink]

def all (p : α → Bool) (b : Both α) : Bool := p b.uplink && p b.downlink

def any (p : α → Bool) (b : Both α) : Bool := p b.uplink || p b.downlink

@[simp] theorem get_set_self (b : Both α) (d : Direction) (a : α) : (b.set d a).get d = a := by
  cases d <;> rfl

theorem get_set_of_ne (b : Both α) {d e : Direction} (h : e ≠ d) (a : α) :
    (b.set d a).get e = b.get e := by
  cases d <;> cases e <;> first | rfl | exact absurd rfl h

@[simp] theorem get_map (f : α → β) (b : Both α) (d : Direction) :
    (b.map f).get d = f (b.get d) := by
  cases d <;> rfl

@[simp] theorem get_ofFn (f : Direction → α) (d : Direction) : (ofFn f).get d = f d := by
  cases d <;> rfl

theorem all_iff (p : α → Bool) (b : Both α) : b.all p = true ↔ ∀ d, p (b.get d) = true := by
  rw [all, Bool.and_eq_true]
  constructor
  · rintro ⟨hup, hdown⟩ d
    cases d
    · exact hup
    · exact hdown
  · intro h
    exact ⟨h .uplink, h .downlink⟩

end Both

/-- Rate, latency and segmentation mode for one direction; `R` is the type of the rate. -/
structure Setpoint (R : Type) where
  direction : Direction
  rateKbit : R
  rttMicros : UInt64
  splitGso : Bool

namespace Setpoint

def modeWord (splitGso : Bool) : String := if splitGso then "split-gso" else "no-split-gso"

/-- The rate in whole kbit, a half rounded up. -/
def wholeKbit (s : Setpoint Float) : Nat := Binary64.toWhole s.rateKbit

/-- The arguments of the command that enforces the setpoint on an interface. -/
def arguments (s : Setpoint Float) (device : String) : List String :=
  ["qdisc", "replace", "dev", device, "root", "cake", "rtt", toString s.rttMicros.toNat ++ "us",
    "bandwidth", toString s.wholeKbit ++ "kbit", modeWord s.splitGso]

def argumentLine (s : Setpoint Float) (device : String) : String :=
  String.intercalate " " (s.arguments device)

/-- The setpoint with its fields named, a rate in the pointed layout. -/
def description (s : Setpoint Float) : String :=
  let way := match s.direction with
    | .uplink => "Uplink"
    | .downlink => "Downlink"
  "Setpoint \x7b direction: " ++ way ++ ", rate_kbit: " ++ Decimal.Layout.pointed.text s.rateKbit ++
    ", rtt_micros: " ++ toString s.rttMicros.toNat ++ ", split_gso: " ++ toString s.splitGso ++
    " \x7d"

end Setpoint

/-- What the arguments of a command ask for. -/
structure Request where
  device : String
  rttMicros : Nat
  rateKbit : Nat
  splitGso : Bool
  deriving DecidableEq

namespace Request

def quantity? (unit text : String) : Option Nat :=
  let s := text.toList
  let n := s.length - unit.length
  if s.drop n = unit.toList then Text.digits? (s.take n) else none

def mode? (word : String) : Option Bool :=
  if word = "split-gso" then some true else if word = "no-split-gso" then some false else none

def ofArguments? : List String → Option Request
  | ["qdisc", "replace", "dev", device, "root", "cake", "rtt", rtt, "bandwidth", rate, mode] => do
    return ⟨device, ← quantity? "us" rtt, ← quantity? "kbit" rate, ← mode? mode⟩
  | _ => none

end Request
end AdaptiveShaper
