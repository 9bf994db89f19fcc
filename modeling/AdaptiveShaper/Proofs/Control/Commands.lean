import AdaptiveShaper.Proofs.Binary64.Rounding
import AdaptiveShaper.Proofs.Control.Course
import AdaptiveShaper.Proofs.Rate.Bounds
import AdaptiveShaper.Proofs.Text.Numeral

/-!
# The commands of a course

Every tick makes two calls, each on the interface of its direction and with the setpoint that the
controller has after the tick, whose fields can be read back from the arguments. Since the rates
stay within their bounds and rounding keeps the order, the bandwidth lies between the rounded floor
and the rounded ceiling; it is never `0kbit`, which would take the limit away.
-/

namespace AdaptiveShaper

/-! ## Arguments read back -/

namespace Request

theorem quantity?_append (n : Nat) (unit : String) :
    quantity? unit (toString n ++ unit) = some n := by
  have hlength : unit.toList.length = unit.length := String.length_toList
  unfold quantity?
  simp only [String.toList_append, Nat.toString_eq_repr, Nat.toList_repr, List.length_append,
    hlength]
  rw [Nat.add_sub_cancel, List.drop_left, List.take_left, if_pos rfl, Text.digits?_toDigits]

theorem mode?_modeWord (splitGso : Bool) : mode? (Setpoint.modeWord splitGso) = some splitGso := by
  cases splitGso <;> rfl

theorem ofArguments?_arguments (p : Setpoint Float) (device : String) :
    ofArguments? (p.arguments device) =
      some ⟨device, p.rttMicros.toNat, p.wholeKbit, p.splitGso⟩ := by
  simp only [Setpoint.arguments, ofArguments?]
  rw [quantity?_append, quantity?_append, mode?_modeWord]
  rfl

end Request

theorem Setpoint.eq_of_arguments_eq {p q : Setpoint Float} {device other : String}
    (h : p.arguments device = q.arguments other) :
    device = other ∧ p.rttMicros = q.rttMicros ∧ p.wholeKbit = q.wholeKbit ∧
      p.splitGso = q.splitGso := by
  have hread := congrArg Request.ofArguments? h
  rw [Request.ofArguments?_arguments, Request.ofArguments?_arguments] at hread
  simpa [UInt64.toNat_inj] using hread

/-! ## Sound setpoints -/

/-- What the command for a setpoint of the direction `d` says, given the settings `s`. -/
structure Setpoint.Sound (s : Settings) (d : Direction) (p : Setpoint Float) : Prop where
  direction_eq : p.direction = d
  length_arguments : (p.arguments (s.interfaces.get d)).length = 11
  read_arguments : Request.ofArguments? (p.arguments (s.interfaces.get d)) =
    some ⟨s.interfaces.get d, p.rttMicros.toNat, p.wholeKbit, p.splitGso⟩
  unique : ∀ (q : Setpoint Float) (device : String),
    q.arguments device = p.arguments (s.interfaces.get d) →
      device = s.interfaces.get d ∧ q.rttMicros = p.rttMicros ∧ q.wholeKbit = p.wholeKbit ∧
        q.splitGso = p.splitGso
  wholeKbit_eq : (∃ q : ℝ, 1 ≤ q ∧ Binary64.extended p.rateKbit = q ∧
      p.wholeKbit = min (round q).toNat 0xffff_ffff_ffff_ffff) ∨
    (Binary64.extended p.rateKbit = ⊤ ∧ p.wholeKbit = 0xffff_ffff_ffff_ffff)
  one_le_floor : 1 ≤ Binary64.toWhole s.rate.rateFloorKbit
  floor_le : Binary64.toWhole s.rate.rateFloorKbit ≤ p.wholeKbit
  le_ceiling : p.wholeKbit ≤ Binary64.toWhole (s.rate.ceiling d)
  limited : (p.arguments (s.interfaces.get d))[9]? ≠ some "0kbit"

/-- The setpoint carries what the controller has come to in the direction `d`. -/
structure Setpoint.Carries (k : RateController Float) (d : Direction) (p : Setpoint Float) :
    Prop where
  direction_eq : p.direction = d
  rateKbit_eq : p.rateKbit = k.rate.get d
  rttMicros_eq : p.rttMicros = .ofNat k.rttTarget.micros
  splitGso_eq : p.splitGso = k.splitGso

theorem RateController.carries_setpoints (k : RateController Float) (d : Direction) :
    (k.setpoints.get d).Carries k d := by
  have hsetpoint : k.setpoints.get d = k.setpoint d := Both.get_ofFn k.setpoint d
  rw [hsetpoint]
  exact ⟨rfl, rfl, rfl, rfl⟩

theorem quantity?_zero : Request.quantity? "kbit" "0kbit" = some 0 := by decide

theorem Setpoint.limited_of_pos {p : Setpoint Float} (h : 0 < p.wholeKbit) (device : String) :
    (p.arguments device)[9]? ≠ some "0kbit" := by
  intro hzero
  have hword : toString p.wholeKbit ++ "kbit" = "0kbit" := Option.some.inj hzero
  have hread := Request.quantity?_append p.wholeKbit "kbit"
  rw [hword, quantity?_zero] at hread
  exact Nat.ne_of_lt h (Option.some.inj hread)

namespace ControlLoop

/-- A loop with the interfaces and the rate bounds of the settings `s`. -/
structure Conforms (s : Settings) (l : ControlLoop) : Prop where
  interfaces_eq : l.adapter.interfaces = s.interfaces
  controller : l.controller.WithinBounds s.rate

variable {s : Settings} {l : ControlLoop}

theorem Conforms.start (hs : s.Valid) : (start s).Conforms s := ⟨rfl, .start hs.rate⟩

theorem Conforms.take (h : l.Conforms s) (hs : s.Valid) (now : Instant) (x : RttSample) :
    (l.take now x).1.Conforms s := by
  unfold ControlLoop.take
  simp only
  split
  · exact ⟨h.interfaces_eq, h.controller.signal hs.rate now⟩
  · exact ⟨h.interfaces_eq, h.controller⟩

theorem Conforms.takeAll (h : l.Conforms s) (hs : s.Valid) (reading : Nat → Instant) (i : Nat)
    (samples : List RttSample) : (l.takeAll reading i samples).1.Conforms s := by
  induction samples generalizing l i with
  | nil => exact h
  | cons x samples ih => exact ih (h.take hs (reading i) x) (i + 1)

theorem Conforms.regulate (h : l.Conforms s) (hs : s.Valid) (clock : TickClock)
    (samples : List RttSample) : (l.regulate clock samples).1.Conforms s := by
  have htaken := h.takeAll hs clock.sample 0 samples
  exact ⟨htaken.interfaces_eq, htaken.controller.answer hs.rate (.tick clock.control _)⟩

theorem Conforms.tick (h : l.Conforms s) (hs : s.Valid) (clock : TickClock)
    (samples : List RttSample) (replies : Both Reply) :
    (l.tick clock samples replies).1.Conforms s := by
  have hregulated := h.regulate hs clock samples
  exact ⟨hregulated.interfaces_eq, hregulated.controller⟩

theorem Conforms.calls_regulate (h : l.Conforms s) (hs : s.Valid) (clock : TickClock)
    (samples : List RttSample) (replies : Both Reply) :
    (l.regulate clock samples).1.calls =
      ⟨⟨s.interfaces.uplink, (l.tick clock samples replies).1.setpoints.uplink⟩,
        ⟨s.interfaces.downlink, (l.tick clock samples replies).1.setpoints.downlink⟩⟩ := by
  rw [← (h.regulate hs clock samples).interfaces_eq]
  rfl

theorem Conforms.sound (h : l.Conforms s) (hs : s.Valid) (d : Direction) :
    (l.setpoints.get d).Sound s d := by
  have hfloor : 1.0 ≤ s.rate.rateFloorKbit := of_decide_eq_true hs.rate.one_atMost_floor
  obtain ⟨hlo, hhi⟩ := h.controller.bounded.rate d
  have hsetpoint : l.setpoints.get d = l.controller.setpoint d := Both.get_ofFn _ d
  have hone := Binary64.one_le_toWhole hfloor
  have hwhole : Binary64.toWhole s.rate.rateFloorKbit ≤ (l.controller.setpoint d).wholeKbit :=
    Binary64.toWhole_mono hlo
  rw [hsetpoint]
  exact {
    direction_eq := rfl
    length_arguments := rfl
    read_arguments := Request.ofArguments?_arguments _ _
    unique := fun q device hsame => Setpoint.eq_of_arguments_eq hsame
    wholeKbit_eq := Binary64.toWhole_of_one_le (Binary64.le_trans hfloor hlo)
    one_le_floor := hone
    floor_le := hwhole
    le_ceiling := Binary64.toWhole_mono hhi
    limited := Setpoint.limited_of_pos (by omega) _ }

end ControlLoop

namespace Course

variable {σ : Type} {s : Settings}

/-- The setpoints of each tick of a course, as the loop has them after the tick. -/
def tickSetpoints (actuator : Actuator σ) (c : Course σ) :
    List Action → List (Both (Setpoint Float))
  | [] => []
  | .tick clock :: later =>
    let next := c.step actuator (.tick clock)
    if c.service.isRunning then next.service.loop.setpoints :: next.tickSetpoints actuator later
    else next.tickSetpoints actuator later
  | a :: later => (c.step actuator a).tickSetpoints actuator later

/-- The calls that enforce the setpoints of one tick. -/
def commands (s : Settings) (p : Both (Setpoint Float)) : List Call :=
  [⟨s.interfaces.uplink, p.uplink⟩, ⟨s.interfaces.downlink, p.downlink⟩]

theorem length_flatMap_commands (s : Settings) (made : List (Both (Setpoint Float))) :
    (made.flatMap (commands s)).length = 2 * made.length := by
  induction made with
  | nil => rfl
  | cons p made ih =>
    rw [List.flatMap_cons, List.length_append, ih, List.length_cons]
    simp only [commands, List.length_cons, List.length_nil]
    omega

theorem calls_tick {c : Course σ} (h : c.service.loop.Conforms s) (hs : s.Valid)
    (actuator : Actuator σ) (clock : TickClock) :
    (c.tick actuator clock).exchanges.map Exchange.call =
      c.exchanges.map Exchange.call ++
        commands s (c.tick actuator clock).service.loop.setpoints := by
  let calls := (c.service.regulate clock).1.loop.calls
  have hcalls : (c.tick actuator clock).exchanges.map Exchange.call =
      c.exchanges.map Exchange.call ++ calls.toList := List.map_append
  rw [hcalls]
  congr 1
  exact congrArg Both.toList (h.calls_regulate hs clock c.service.queue.drain.2
    (actuator.applyBoth c.port calls).2)

theorem conforms_run (hs : s.Valid) (actuator : Actuator σ) (c : Course σ)
    (h : c.service.loop.Conforms s) (actions : List Action) :
    (c.run actuator actions).service.loop.Conforms s :=
  run_induction (P := fun c => c.service.loop.Conforms s) h (fun _ _ hc => hc)
    (fun _ clock hc => hc.tick hs clock _ _) (fun _ hc => hc) actions

/-- Where a course has come to: the loop conforms to the settings, and since `c` the calls and the
ticks have grown by what the setpoints `made` ask for. -/
structure Commanded (s : Settings) (c : Course σ) (made : List (Both (Setpoint Float)))
    (c' : Course σ) : Prop where
  calls_eq : c'.exchanges.map Exchange.call =
    c.exchanges.map Exchange.call ++ made.flatMap (commands s)
  ticks_eq : c'.service.loop.ticks = c.service.loop.ticks + made.length
  sound : ∀ p ∈ made, ∀ d, (p.get d).Sound s d

theorem Commanded.tick {c c' : Course σ} {made : List (Both (Setpoint Float))}
    (h : c.service.loop.Conforms s) (hs : s.Valid) (actuator : Actuator σ) (clock : TickClock)
    (hlater : Commanded s (c.tick actuator clock) made c') :
    Commanded s c ((c.tick actuator clock).service.loop.setpoints :: made) c' := by
  have hnext : (c.tick actuator clock).service.loop.Conforms s := h.tick hs clock _ _
  have hticks : (c.tick actuator clock).service.loop.ticks = c.service.loop.ticks + 1 :=
    c.service.loop.ticks_tick clock _ _
  obtain ⟨hcalls, hmade, hsound⟩ := hlater
  refine ⟨?_, ?_, ?_⟩
  · rw [hcalls, calls_tick h hs, List.flatMap_cons, List.append_assoc]
  · rw [hmade, hticks, List.length_cons]
    omega
  · intro p hp d
    rcases List.mem_cons.mp hp with rfl | hp
    · exact hnext.sound hs d
    · exact hsound p hp d

theorem commanded_run (hs : s.Valid) (actuator : Actuator σ) (c : Course σ)
    (h : c.service.loop.Conforms s) (actions : List Action) :
    Commanded s c (c.tickSetpoints actuator actions) (c.run actuator actions) := by
  induction actions generalizing c with
  | nil => exact ⟨(List.append_nil _).symm, rfl, by simp [tickSetpoints]⟩
  | cons a later ih =>
    rw [run, List.foldl_cons]
    cases a with
    | record i =>
      obtain ⟨hcalls, hticks, hsound⟩ := ih (c.record i) h
      exact ⟨hcalls, hticks, hsound⟩
    | stop =>
      obtain ⟨hcalls, hticks, hsound⟩ := ih c.stop h
      exact ⟨hcalls, hticks, hsound⟩
    | tick clock =>
      cases hrun : c.service.isRunning with
      | false =>
        simp only [tickSetpoints, step, hrun, Bool.false_eq_true, if_false]
        exact ih c h
      | true =>
        simp only [tickSetpoints, step, hrun, if_true]
        exact (ih (c.tick actuator clock) (h.tick hs clock _ _)).tick h hs actuator clock

/-- From accepted settings on, whatever samples are handed in, ticks are made and answers the calls
get: the calls are those of the ticks, two for each, on the interfaces of the settings. Each has the
arguments from which its setpoint can be read back, with a bandwidth between the rounded floor and
the rounded ceiling. One more tick calls for what the controller has come to by its end. -/
theorem commands_ofSettings (s : Settings) (h : s.validate = .ok ()) (actuator : Actuator σ)
    (port : σ) (actions : List Action) :
    Service.new s = .ok (.start s) ∧
      (ofSettings s actuator port actions).exchanges.map Exchange.call =
        ((begin (.start s) port).tickSetpoints actuator actions).flatMap (commands s) ∧
      ((begin (.start s) port).tickSetpoints actuator actions).length =
        (ofSettings s actuator port actions).service.loop.ticks ∧
      (ofSettings s actuator port actions).exchanges.length =
        2 * (ofSettings s actuator port actions).service.loop.ticks ∧
      (∀ p ∈ (begin (.start s) port).tickSetpoints actuator actions, ∀ d, (p.get d).Sound s d) ∧
      ∀ clock, .stop ∉ actions →
        let next := ofSettings s actuator port (actions ++ [.tick clock])
        ∃ p, next.exchanges.map Exchange.call =
            (ofSettings s actuator port actions).exchanges.map Exchange.call ++ commands s p ∧
          ∀ d, (p.get d).Carries next.service.loop.controller d := by
  have hs := s.validate_eq_ok_iff.mp h
  obtain ⟨hcalls, hticks, hsound⟩ := commanded_run hs actuator (begin (.start s) port)
    (.start hs) actions
  have hconforms := conforms_run hs actuator (begin (.start s) port) (.start hs) actions
  change (ofSettings s actuator port actions).exchanges.map Exchange.call = [] ++ _ at hcalls
  change (ofSettings s actuator port actions).service.loop.ticks = 0 + _ at hticks
  rw [List.nil_append] at hcalls
  rw [Nat.zero_add] at hticks
  refine ⟨Service.new_eq_ok h, hcalls, hticks.symm, ?_, hsound, ?_⟩
  · rw [hticks, ← length_flatMap_commands s, ← hcalls, List.length_map]
  · intro clock hstop
    rw [ofSettings_concat_tick s actuator port hstop]
    exact ⟨_, calls_tick hconforms hs actuator clock, RateController.carries_setpoints _⟩

/-- The lowest floor that is accepted, and an uplink whose calls all fail. -/
theorem commands_ofSettings_lowest :
    ({ Settings.standard with rate.rateFloorKbit := 1.0 } : Settings).validate = .ok () ∧
      (ofSettings { Settings.standard with rate.rateFloorKbit := 1.0 } .scripted
        ⟨[], ⟨some (.timeout .longest), none⟩, 0, 0⟩
        [.record (.nanos 5), .tick (.steady .start .start), .tick (.steady ⟨7⟩ ⟨3⟩), .stop,
          .tick (.steady .start .start)]).exchanges.length = 4 := by
  have h : ({ Settings.standard with rate.rateFloorKbit := 1.0 } : Settings).validate = .ok () :=
    rfl
  exact ⟨h, (commands_ofSettings _ h .scripted _ _).2.2.2.1⟩

end Course
end AdaptiveShaper
