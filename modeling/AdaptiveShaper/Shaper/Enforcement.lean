import AdaptiveShaper.Shaper.Actuator

/-!
# Enforcing setpoints

Each setpoint becomes one call for the interface of its direction, in the order given; the reply is
noted before the next call is made, and a failure does not keep later setpoints from being enforced.
-/

namespace AdaptiveShaper

/-- The interfaces of a link and the health of its directions. -/
structure Adapter where
  interfaces : Both String
  /-- The number of failures in a row at which a direction is degraded. -/
  threshold : Nat
  health : Both Health

/-- What is told while setpoints are enforced. -/
inductive EnforceEvent where
  | actuator (event : ActuatorEvent)
  | health (event : HealthEvent)

def EnforceEvent.record : EnforceEvent → Log.Record
  | .actuator e => e.record
  | .health e => e.record

/-- A call with the reply that it got. -/
structure Exchange where
  call : Call
  reply : Reply

/-- What comes of enforcing setpoints. -/
structure Enforcement (σ : Type) where
  /-- The state of the actuator. -/
  state : σ
  adapter : Adapter
  /-- The calls that were made, in order. -/
  exchanges : List Exchange
  events : List EnforceEvent
  /-- How many calls failed. -/
  failures : Nat

namespace Enforcement

variable {σ : Type}

/-- How far the calls moved the clock, in nanoseconds. -/
def cost (e : Enforcement σ) : Nat := e.exchanges.foldl (fun n x => n + x.reply.cost) 0

end Enforcement

namespace Adapter

/-- An adapter that nothing was enforced with; a threshold of zero is taken as one. -/
def new (interfaces : Both String) (threshold : Nat) : Adapter :=
  ⟨interfaces, max threshold 1, Both.same Health.fresh⟩

def degraded (a : Adapter) : Bool := a.health.any Health.degraded

def call (a : Adapter) (s : Setpoint Float) : Call := ⟨a.interfaces.get s.direction, s⟩

/-- The calls that enforce setpoints, in order. -/
def calls (a : Adapter) (ss : List (Setpoint Float)) : List Call := ss.map a.call

def observe (a : Adapter) (s : Setpoint Float) (o : Outcome) : Adapter × List HealthEvent :=
  let (h, events) := (a.health.get s.direction).observe a.threshold s o
  ({ a with health := a.health.set s.direction h }, events)

def note (a : Adapter) (s : Setpoint Float) (reply : Reply) : Adapter × List EnforceEvent :=
  let (a, events) := a.observe s reply.outcome
  (a, reply.events.map .actuator ++ events.map .health)

def enforce {σ : Type} (actuator : Actuator σ) (state : σ) (a : Adapter) :
    List (Setpoint Float) → Enforcement σ
  | [] => ⟨state, a, [], [], 0⟩
  | s :: rest =>
    let (state, reply) := actuator.apply state (a.call s)
    let (next, told) := a.note s reply
    let later := next.enforce actuator state rest
    { later with
      exchanges := ⟨a.call s, reply⟩ :: later.exchanges
      events := told ++ later.events
      failures := reply.count later.failures }

/-- One call is made for each setpoint, whatever the replies are. -/
theorem calls_enforce {σ : Type} (actuator : Actuator σ) (state : σ) (a : Adapter)
    (ss : List (Setpoint Float)) :
    (a.enforce actuator state ss).exchanges.map Exchange.call = a.calls ss := by
  induction ss generalizing state a with
  | nil => rfl
  | cons s rest ih =>
    simp only [enforce, List.map_cons, ih, calls]
    rfl

end Adapter
end AdaptiveShaper
