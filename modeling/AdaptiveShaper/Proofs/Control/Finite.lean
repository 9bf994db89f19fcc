import AdaptiveShaper.Proofs.Control.Commands
import AdaptiveShaper.Proofs.Control.Publication
import AdaptiveShaper.Proofs.Rate.Unlimited

/-!
# When all rates are finite

The checks let an infinite maximum pass. With finite maxima everything is finite: rates and
references lie below nine tenths of them, and so the recovery curve is a number at any time. With an
infinite maximum the ceiling is infinite, and ticks alone lead there.
-/

namespace AdaptiveShaper

open Binary64

/-! ## The rate controller -/

namespace RateController

/-- The bounds, the rates and the references of a controller are finite, and the recovery curves
through the references are numbers at any time. -/
structure Finite (s : RateSettings Float) (c : RateController Float) : Prop where
  floor : s.rateFloorKbit.isFinite = true
  ceiling : ∀ d, (s.ceiling d).isFinite = true
  rate : ∀ d, (c.rate.get d).isFinite = true
  reference : ∀ d, (c.reference.get d).isFinite = true
  curve : ∀ d (elapsed : Span), (Recovery.rate (c.reference.get d) (RateNumber.ofSeconds elapsed)
    s.backoffFraction s.cubicConstant).isNaN = false

variable {s : RateSettings Float} {c : RateController Float}

theorem Bounded.finite (h : c.Bounded s) (hs : s.Valid)
    (hmax : ∀ d, (s.maxRate d).isFinite = true) : c.Finite s := by
  have hceiling : ∀ d, (s.ceiling d).isFinite = true := fun d =>
    (s.isFinite_ceiling d).trans (hmax d)
  have hproper : ∀ {x : Float} {d}, s.rateFloorKbit ≤ x ∧ x ≤ s.ceiling d → FiniteNonzero x :=
    fun hx => finiteNonzero_of_le (Binary64.le_trans hs.one_le_floor hx.1) hx.2 (hceiling _)
  have hbackoff : s.backoffFraction.isNaN = false :=
    (not_isNaN_of_compare? (lt_iff.mp (of_decide_eq_true hs.backoff_lt_one))).1
  have hcubic : FiniteNonzero s.cubicConstant :=
    (finitePositive_of_pos (of_decide_eq_true hs.cubic_pos) hs.cubic_finite).finiteNonzero
  constructor
  · exact (finiteNonzero_of_le hs.one_le_floor (hs.floor_le_ceiling .uplink)
      (hceiling .uplink)).isFinite
  · exact hceiling
  · exact fun d => (hproper (h.rate d)).isFinite
  · exact fun d => (hproper (h.reference d)).isFinite
  · exact fun d elapsed => isNaN_recoveryRate (hproper (h.reference d))
      (isFinite_ofSeconds elapsed) hbackoff hcubic

end RateController

/-- Settings with maxima that are infinite, and a floor from which one doubling leads there. -/
def Settings.unlimited : Settings :=
  { Settings.standard with
    rate := { RateSettings.standard with
      maxUploadKbit := 1.0 / 0.0
      maxDownloadKbit := 1.0 / 0.0
      rateFloorKbit := 1e308 } }

theorem Settings.valid_unlimited : Settings.unlimited.Valid :=
  have hstandard : Settings.standard.Valid := Settings.standard.validate_eq_ok_iff.mp rfl
  { hstandard with
    rate := { hstandard.rate with
      floorFits := fun d => by cases d <;> decide +kernel } }

/-! ## Courses -/

namespace Course

variable {σ : Type} {s : Settings} {c : Course σ}

/-- What the loop is and what it has sent keeps the bounds of the settings `s`. -/
structure Confined (s : Settings) (c : Course σ) : Prop where
  conforms : c.service.loop.Conforms s
  sent : ∀ x ∈ c.exchanges, ∃ d, s.rate.rateFloorKbit ≤ x.call.setpoint.rateKbit ∧
    x.call.setpoint.rateKbit ≤ s.rate.ceiling d

theorem Confined.tick (h : c.Confined s) (hs : s.Valid) (actuator : Actuator σ)
    (clock : TickClock) : (c.tick actuator clock).Confined s := by
  have hregulated := h.conforms.regulate hs clock c.service.queue.waiting
  refine ⟨h.conforms.tick hs clock _ _, fun x hx => ?_⟩
  rcases List.mem_append.mp hx with hx | hx
  · exact h.sent x hx
  · simp only [List.mem_cons, List.not_mem_nil, or_false] at hx
    rcases hx with rfl | rfl
    · exact ⟨.uplink, hregulated.controller.bounded.rate .uplink⟩
    · exact ⟨.downlink, hregulated.controller.bounded.rate .downlink⟩

theorem confined_ofSettings (hs : s.Valid) (actuator : Actuator σ) (port : σ)
    (actions : List Action) : (ofSettings s actuator port actions).Confined s := by
  have hstart : (begin (.start s) port).Confined s :=
    ⟨.start hs, fun _ hx => absurd hx List.not_mem_nil⟩
  refine run_induction hstart ?_ ?_ ?_ actions
  · exact fun _ _ h => ⟨h.conforms, h.sent⟩
  · exact fun _ clock h => h.tick hs actuator clock
  · exact fun _ h => ⟨h.conforms, h.sent⟩

/-- The loop and all that it has sent is finite. -/
structure Finite (s : Settings) (c : Course σ) : Prop where
  controller : c.service.loop.controller.Finite s.rate
  sent : ∀ x ∈ c.exchanges, x.call.setpoint.rateKbit.isFinite = true

theorem Confined.finite (h : c.Confined s) (hs : s.Valid)
    (hmax : ∀ d, (s.rate.maxRate d).isFinite = true) : c.Finite s where
  controller := h.conforms.controller.bounded.finite hs.rate hmax
  sent x hx := by
    obtain ⟨d, hlo, hhi⟩ := h.sent x hx
    have hone := Binary64.le_trans hs.rate.one_le_floor hlo
    exact (finiteNonzero_of_le hone hhi ((s.rate.isFinite_ceiling d).trans (hmax d))).isFinite

/-! ### Nothing but ticks -/

theorem controller_tick_of_waiting_nil (h : c.service.queue.waiting = []) (actuator : Actuator σ)
    (clock : TickClock) : (c.tick actuator clock).service.loop.controller =
      (c.service.loop.controller.tick clock.control c.service.loop.rttMean?).1 := by
  change ((c.service.loop.takeAll clock.sample 0 c.service.queue.waiting).1.control
    clock.control).1.controller = _
  rw [h]
  rfl

theorem climbs_ofSettings (hs : s.Valid) {d : Direction}
    (hceiling : (s.rate.ceiling d).toModel.unpack = .infinity .positive) (actuator : Actuator σ)
    (port : σ) {actions : List Action} (hactions : ∀ a ∈ actions, a.isTick = true) :
    (ofSettings s actuator port actions).service.queue.waiting = [] ∧
      (ofSettings s actuator port actions).service.loop.controller.Climbs s.rate d
        actions.length := by
  induction actions using List.reverseRecOn with
  | nil => exact ⟨rfl, .start hs.rate d⟩
  | append_singleton actions a ih =>
    have hbefore : ∀ b ∈ actions, b.isTick = true := fun b hb =>
      hactions b (List.mem_append_left _ hb)
    have hlast : a.isTick = true := hactions a (by simp)
    obtain ⟨hwaiting, hclimbs⟩ := ih hbefore
    cases a with
    | record i => cases hlast
    | stop => cases hlast
    | tick clock =>
      have hstop : Action.stop ∉ actions := fun hmem => absurd (hbefore _ hmem) (by decide)
      rw [ofSettings_concat_tick s actuator port hstop, List.length_append]
      refine ⟨rfl, ?_⟩
      rw [controller_tick_of_waiting_nil hwaiting]
      exact hclimbs.tick hs.rate hceiling _ _

theorem exists_sent_tick (actuator : Actuator σ) (c : Course σ) (clock : TickClock)
    (d : Direction) : ∃ x ∈ (c.tick actuator clock).exchanges, x.call.setpoint.direction = d ∧
      x.call.setpoint.rateKbit = (c.tick actuator clock).service.loop.controller.rate.get d := by
  cases d with
  | uplink => exact ⟨_, List.mem_append_right _ List.mem_cons_self, rfl, rfl⟩
  | downlink =>
    exact ⟨_, List.mem_append_right _ (List.mem_cons_of_mem _ List.mem_cons_self), rfl, rfl⟩

/-- After enough ticks an infinite rate is sent. -/
theorem exists_infinite_sent (hs : s.Valid) {d : Direction}
    (hmax : (s.rate.maxRate d).isFinite = false) (actuator : Actuator σ) (port : σ)
    {actions : List Action} (hactions : ∀ a ∈ actions, a.isTick = true)
    (hlength : 2046 ≤ actions.length) (clock : TickClock) :
    ∃ x ∈ (ofSettings s actuator port (actions ++ [.tick clock])).exchanges,
      x.call.setpoint.direction = d ∧ x.call.setpoint.rateKbit.isFinite = false := by
  have hstop : Action.stop ∉ actions := fun hmem => absurd (hactions _ hmem) (by decide)
  have hticks : ∀ a ∈ actions ++ [Action.tick clock], a.isTick = true := by
    intro a ha
    rcases List.mem_append.mp ha with ha | ha
    · exact hactions a ha
    · rw [List.mem_singleton.mp ha]
      rfl
  have hclimbs := (climbs_ofSettings hs (hs.rate.ceiling_eq_infinity hmax) actuator port hticks).2
  rw [ofSettings_concat_tick s actuator port hstop, List.length_append] at hclimbs
  obtain ⟨x, hx, hdirection, hsent⟩ :=
    exists_sent_tick actuator (ofSettings s actuator port actions) clock d
  rw [ofSettings_concat_tick s actuator port hstop]
  refine ⟨x, hx, hdirection, ?_⟩
  rw [hsent]
  exact isFinite_of_eq_infinity (hclimbs.rate_eq_infinity (by omega))

/-- Accepted settings have finite maxima exactly if along every run of the rate controller and every
course the bounds, the rates, the references and the setpoints sent are finite and the recovery
curves are numbers. If the maximum of a direction is infinite, nothing but 2046 ticks is needed for
an infinite rate, which is sent; a latency increase at that rate makes the curve nowhere a
number. -/
theorem finite_ofSettings_iff (s : Settings) (h : s.validate = .ok ()) :
    Service.new s = .ok (.start s) ∧
      ((∀ d, (s.rate.maxRate d).isFinite = true) ↔
        (∀ calls, ((RateController.start s.rate).run calls).Finite s.rate) ∧
          ∀ (σ : Type) (actuator : Actuator σ) (port : σ) (actions : List Action),
            (ofSettings s actuator port actions).Finite s) ∧
      ∀ d, (s.rate.maxRate d).isFinite = false →
        (∀ calls : List RateCall, (∀ call ∈ calls, call.isTick = true) → 2046 ≤ calls.length →
          (((RateController.start s.rate).run calls).rate.get d).isFinite = false ∧
          ∀ (now : Instant) (elapsed : Span),
            (Recovery.rate
              (((RateController.start s.rate).run (calls ++ [.signal now])).reference.get d)
              (RateNumber.ofSeconds elapsed) s.rate.backoffFraction
              s.rate.cubicConstant).isNaN = true) ∧
        ∀ (σ : Type) (actuator : Actuator σ) (port : σ) (actions : List Action) (clock : TickClock),
          (∀ a ∈ actions, a.isTick = true) → 2046 ≤ actions.length →
          ∃ x ∈ (ofSettings s actuator port (actions ++ [.tick clock])).exchanges,
            x.call.setpoint.direction = d ∧ x.call.setpoint.rateKbit.isFinite = false := by
  have hs := s.validate_eq_ok_iff.mp h
  have hstart := RateController.WithinBounds.start hs.rate
  refine ⟨Service.new_eq_ok h, ⟨fun hmax => ⟨fun calls => ?_, fun σ actuator port actions => ?_⟩,
    ?_⟩, fun d hmax => ⟨fun calls => ?_, fun σ actuator port actions clock => ?_⟩⟩
  · exact (hstart.run hs.rate calls).bounded.finite hs.rate hmax
  · exact (confined_ofSettings hs actuator port actions).finite hs hmax
  · rintro ⟨hcontroller, _⟩ d
    rw [← s.rate.isFinite_ceiling d]
    exact (hcontroller []).ceiling d
  · exact RateController.infinite_run_start hs.rate hmax
  · exact fun hactions hlength => exists_infinite_sent hs hmax actuator port hactions hlength clock

/-- Both cases: the standard settings and those without limits. -/
theorem finite_ofSettings_iff_standard :
    Settings.standard.validate = .ok () ∧
      (ofSettings .standard .dryRun () [.tick (.steady .start .start), .record (.nanos 5),
        .record (.nanos 9), .tick (.steady ⟨7⟩ ⟨7⟩)]).Finite .standard ∧
      Settings.unlimited.validate = .ok () ∧
      (((RateController.start Settings.unlimited.rate).run
        (List.replicate 2046 (.tick .start none))).rate.get .downlink).isFinite = false := by
  have hstandard : Settings.standard.validate = .ok () := rfl
  have hunlimited : Settings.unlimited.validate = .ok () :=
    Settings.unlimited.validate_eq_ok_iff.mpr Settings.valid_unlimited
  have hmax : ∀ d, (Settings.standard.rate.maxRate d).isFinite = true := by
    intro d
    cases d <;> rfl
  have hticks : ∀ call ∈ List.replicate 2046 (RateCall.tick .start none), call.isTick = true := by
    intro call hcall
    rw [List.eq_of_mem_replicate hcall]
    rfl
  have hinfinite := ((finite_ofSettings_iff .unlimited hunlimited).2.2 .downlink rfl).1 _ hticks
    (Nat.le_of_eq List.length_replicate.symm)
  exact ⟨hstandard, ((finite_ofSettings_iff .standard hstandard).2.1.mp hmax).2 _ _ _ _, hunlimited,
    hinfinite.1⟩

theorem not_finite_unlimited :
    Settings.unlimited.validate = .ok () ∧
      (let c := ofSettings .unlimited .dryRun () [.tick (.steady .start .start)]
       (c.service.loop.controller.rate.get .uplink).isFinite = false ∧
        (c.exchanges.map (·.call.setpoint.rateKbit.isFinite)) = [false, false]) ∧
      (let c := ofSettings .unlimited .dryRun () [.tick (.steady .start .start), .record (.nanos 5),
          .record (.nanos 9), .tick (.steady ⟨7⟩ ⟨7⟩)]
       (c.service.loop.controller.reference.get .uplink).isFinite = false ∧
        (Recovery.rate (c.service.loop.controller.reference.get .uplink)
          (RateNumber.ofSeconds .zero) Settings.unlimited.rate.backoffFraction
          Settings.unlimited.rate.cubicConstant).isNaN = true) :=
  ⟨Settings.unlimited.validate_eq_ok_iff.mpr Settings.valid_unlimited, by decide +kernel,
    by decide +kernel⟩

end Course
end AdaptiveShaper
