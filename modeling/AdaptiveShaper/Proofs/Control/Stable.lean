import AdaptiveShaper.Proofs.Control.Batches
import AdaptiveShaper.Proofs.Rate.Growth

/-!
# A stable link

If no sample is greater than the one before it, no tick finds an increase, and the first sample of
all is compared with the longest span. So each tick is a step of growing, and the rates are known in
closed form.
-/

namespace AdaptiveShaper

theorem increases_eq_zero {xs : List Span} (h : xs.Pairwise fun a b => b ≤ a) :
    increases xs = 0 := by
  induction xs with
  | nil => rfl
  | cons x xs ih =>
    cases xs with
    | nil => rfl
    | cons y ys =>
      obtain ⟨hfirst, hrest⟩ := List.pairwise_cons.mp h
      have hle : y.nanos ≤ x.nanos := hfirst y List.mem_cons_self
      have hincreased : latencyIncreased x y = false :=
        decide_eq_false (Nat.not_lt.mpr hle)
      rw [increases_cons_cons, ih hrest, hincreased]
      rfl

/-- What comes before a batch is its predecessor, or the longest span if nothing does. -/
theorem pairwise_getLastD_cons {xs ys : List Span}
    (h : (xs ++ ys).Pairwise fun a b => b ≤ a) :
    (xs.getLastD .longest :: ys).Pairwise fun a b => b ≤ a := by
  obtain ⟨_, hys, hacross⟩ := List.pairwise_append.mp h
  refine List.pairwise_cons.mpr ⟨?_, hys⟩
  intro y hy
  cases xs using List.reverseRecOn with
  | nil => exact y.nanos_le
  | append_singleton xs x =>
    rw [List.getLastD_concat]
    exact hacross x (by simp) y hy

namespace Course

variable {σ : Type} {s : Settings}

/-! ## Samples that were taken in -/

/-- Whether no sample that was taken in is greater than one before it. -/
def Settling (c : Course σ) : Prop := c.spans.Pairwise fun a b => b ≤ a

theorem accepted_prefix_step (actuator : Actuator σ) (c : Course σ) (a : Action) :
    c.accepted <+: (c.step actuator a).accepted := by
  cases a with
  | record i => exact (List.prefix_append _ _).filterMap _
  | tick clock =>
    simp only [step]
    split
    · exact List.prefix_refl _
    · exact List.prefix_refl _
  | stop => exact List.prefix_refl _

theorem accepted_prefix_run (actuator : Actuator σ) (c : Course σ) (actions : List Action) :
    c.accepted <+: (c.run actuator actions).accepted := by
  induction actions generalizing c with
  | nil => exact List.prefix_refl _
  | cons a actions ih => exact (accepted_prefix_step actuator c a).trans (ih _)

theorem Settling.of_run {c : Course σ} {actuator : Actuator σ} {actions : List Action}
    (h : (c.run actuator actions).Settling) : c.Settling := by
  have hspans : c.spans <+: (c.run actuator actions).spans :=
    (accepted_prefix_run actuator c actions).map _
  exact List.Pairwise.sublist hspans.sublist h

theorem Settling.pending_eq_zero (hs : s.Valid) {actuator : Actuator σ} {port : σ}
    {actions : List Action} (h : (ofSettings s actuator port actions).Settling)
    (hrunning : (ofSettings s actuator port actions).service.isRunning = true) :
    (ofSettings s actuator port actions).pending = 0 := by
  have haccepted := (balanced_ofSettings s actuator port actions).accepted_eq hrunning
  have hprevious := (hasSeen_ofSettings hs actuator port actions).previous_eq
  rw [Settling, spans, haccepted, List.map_append] at h
  rw [pending, hprevious]
  exact increases_eq_zero (pairwise_getLastD_cons h)

/-! ## The ramp of a course -/

theorem ticks_tick (actuator : Actuator σ) (c : Course σ) (clock : TickClock) :
    (c.tick actuator clock).service.loop.ticks = c.service.loop.ticks + 1 :=
  ControlLoop.ticks_tick _ _ _ _

theorem ramped_ofSettings (hs : s.Valid) (hlimited : s.rate.Limited) (actuator : Actuator σ)
    (port : σ) {actions : List Action} (h : (ofSettings s actuator port actions).Settling) :
    (ofSettings s actuator port actions).controller.Ramped s.rate
      (ofSettings s actuator port actions).service.loop.ticks := by
  induction actions using List.reverseRecOn with
  | nil => exact .start hlimited
  | append_singleton actions a ih =>
    have hlast : ofSettings s actuator port (actions ++ [a]) =
        (ofSettings s actuator port actions).run actuator [a] := run_append _ _ _ _
    rw [hlast] at h ⊢
    have hbefore := h.of_run
    have hramped := ih hbefore
    change ((ofSettings s actuator port actions).step actuator a).controller.Ramped s.rate
      ((ofSettings s actuator port actions).step actuator a).service.loop.ticks
    cases a with
    | record i => exact hramped
    | stop => exact hramped
    | tick clock =>
      simp only [step]
      split
      · next hrunning =>
        obtain ⟨rttMean, htick⟩ :=
          controller_tick_of_pending (hbefore.pending_eq_zero hs hrunning) actuator clock
        rw [htick, ticks_tick]
        exact hramped.tick hlimited clock.control rttMean
      · exact hramped

theorem ticks_le_run (actuator : Actuator σ) (c : Course σ) (actions : List Action) :
    c.service.loop.ticks ≤ (c.run actuator actions).service.loop.ticks := by
  refine run_induction (P := fun d => c.service.loop.ticks ≤ d.service.loop.ticks) ?_ ?_ ?_ ?_
    actions
  · exact Nat.le_refl _
  · intro d i h
    exact h
  · intro d clock h
    rw [ticks_tick]
    exact Nat.le_succ_of_le h
  · intro d h
    exact h

/-- What a course with the settings `s` has come to on a stable link. -/
structure Stable (s : Settings) (c : Course σ) : Prop where
  phase_eq : c.controller.phase = .growing
  totalBackoffs_eq : c.controller.totalBackoffs = 0
  totalRecoveries_eq : c.controller.totalRecoveries = 0
  isFinite_rate : ∀ d, (c.controller.rate.get d).isFinite = true
  toReal_rate : ∀ d, Binary64.toReal (c.controller.rate.get d) =
    min (Binary64.toReal s.rate.rateFloorKbit * 2 ^ c.service.loop.ticks)
      (Binary64.toReal (s.rate.ceiling d))
  splitGso_iff : c.controller.splitGso = true ↔
    min (Binary64.toReal (c.controller.rate.get .uplink))
        (Binary64.toReal (c.controller.rate.get .downlink)) <
      Binary64.toReal s.rate.splitGsoThresholdKbit

theorem stable_of_ramped {c : Course σ} (hlimited : s.rate.Limited)
    (h : c.controller.Ramped s.rate c.service.loop.ticks) : c.Stable s where
  phase_eq := h.phase_eq
  totalBackoffs_eq := h.totalBackoffs_eq
  totalRecoveries_eq := h.totalRecoveries_eq
  isFinite_rate := h.isFinite_rate hlimited
  toReal_rate d := by
    rw [h.toReal_rate, RateSettings.ramp, Nat.cast_pow, Nat.cast_ofNat]
  splitGso_iff := by
    rw [h.toReal_rate, h.toReal_rate]
    exact h.splitGso_iff hlimited

/-- With finite maxima, any clock and any answers: while the samples taken in do not increase, the
rate of each direction is the floor doubled once for each tick, held to the ceiling, and there is no
backoff and no recovery. Along the course no rate decreases, and packets that are not split any more
are not split later. -/
theorem stable_ofSettings (s : Settings) (h : s.validate = .ok ())
    (hmax : ∀ d, (s.rate.maxRate d).isFinite = true) (actuator : Actuator σ) (port : σ)
    (actions : List Action) (hsettling : (ofSettings s actuator port actions).Settling) :
    Service.new s = .ok (.start s) ∧
      (Action.stop ∉ actions → (ofSettings s actuator port actions).service.loop.ticks =
        actions.countP Action.isTick) ∧
      (ofSettings s actuator port actions).Stable s ∧
      ∀ earlier, earlier <+: actions →
        (ofSettings s actuator port earlier).Stable s ∧
        (∀ d, (ofSettings s actuator port earlier).controller.rate.get d ≤
          (ofSettings s actuator port actions).controller.rate.get d) ∧
        ((ofSettings s actuator port earlier).controller.splitGso = false →
          (ofSettings s actuator port actions).controller.splitGso = false) := by
  have hs := s.validate_eq_ok_iff.mp h
  have hlimited := RateSettings.Limited.of_maxRate hs.rate hmax
  have hramped := ramped_ofSettings hs hlimited actuator port hsettling
  refine ⟨Service.new_eq_ok h, ?_, stable_of_ramped hlimited hramped, ?_⟩
  · intro hstop
    exact (records_ofSettings hs actuator port hstop).ticks_eq
  · rintro earlier ⟨later, rfl⟩
    have hsplit : ofSettings s actuator port (earlier ++ later) =
        (ofSettings s actuator port earlier).run actuator later := run_append _ _ _ _
    rw [hsplit] at hsettling hramped ⊢
    have hbefore := ramped_ofSettings hs hlimited actuator port hsettling.of_run
    have hticks := ticks_le_run actuator (ofSettings s actuator port earlier) later
    refine ⟨stable_of_ramped hlimited hbefore, ?_, ?_⟩
    · exact hbefore.rate_le hramped hlimited hticks
    · exact hbefore.splitGso_le hramped hlimited hticks

/-- Two equal samples in a tick, a lesser one in the next and none in the last. -/
theorem stable_ofSettings_standard :
    Settings.standard.validate = .ok () ∧
      (∀ d, (Settings.standard.rate.maxRate d).isFinite = true) ∧
      (ofSettings .standard .dryRun () [.record (.nanos 9), .record (.nanos 9),
        .tick (.steady ⟨5⟩ ⟨7⟩), .record (.nanos 4), .tick (.steady ⟨3⟩ ⟨2⟩),
        .tick (.steady ⟨8⟩ ⟨8⟩)]).Settling ∧
      (ofSettings .standard .dryRun () [.record (.nanos 9), .record (.nanos 9),
        .tick (.steady ⟨5⟩ ⟨7⟩), .record (.nanos 4), .tick (.steady ⟨3⟩ ⟨2⟩),
        .tick (.steady ⟨8⟩ ⟨8⟩)]).Stable .standard := by
  have h : Settings.standard.validate = .ok () := rfl
  have hmax : ∀ d, (Settings.standard.rate.maxRate d).isFinite = true := by
    intro d
    cases d <;> rfl
  have hsettling : (ofSettings .standard .dryRun () [.record (.nanos 9), .record (.nanos 9),
      .tick (.steady ⟨5⟩ ⟨7⟩), .record (.nanos 4), .tick (.steady ⟨3⟩ ⟨2⟩),
      .tick (.steady ⟨8⟩ ⟨8⟩)]).Settling := by
    have hspans : (ofSettings .standard .dryRun () [.record (.nanos 9), .record (.nanos 9),
        .tick (.steady ⟨5⟩ ⟨7⟩), .record (.nanos 4), .tick (.steady ⟨3⟩ ⟨2⟩),
        .tick (.steady ⟨8⟩ ⟨8⟩)]).spans = [.ofNanos 9, .ofNanos 9, .ofNanos 4] := rfl
    rw [Settling, hspans]
    decide
  exact ⟨h, hmax, hsettling, (stable_ofSettings .standard h hmax .dryRun () _ hsettling).2.2.1⟩

end Course
end AdaptiveShaper
