import AdaptiveShaper.Proofs.Rate.Ideal

/-!
# Along the recovery curve

The first tick after a latency increase hands on the cut rates, which is where the curves start.
Each later one moves the rates along their curves to the time of its reading, until both directions
are at their ceilings in the same tick; one of them may have to wait there for the other.
-/

namespace AdaptiveShaper

/-- Ticks at some readings, each with the mean round-trip time that it is given. -/
def RateCall.ticks (readings : List (Instant × Option Span)) : List RateCall :=
  readings.map fun p => .tick p.1 p.2

namespace RateController

open RateNumber RateSettings

variable {s : RateSettings ℝ} {r : Direction → ℝ} {began now later : Instant}
  {c : RateController ℝ}

theorem WithinBounds.rate_bounds (h : c.WithinBounds s) (d : Direction) :
    s.rateFloorKbit ≤ c.rate.get d ∧ c.rate.get d ≤ s.ceiling d :=
  (h.within_rate d).imp of_decide_eq_true of_decide_eq_true

/-! ## The curves of a controller -/

/-- A controller with the references `r` whose curves began at the reading `began`. -/
structure Anchored (s : RateSettings ℝ) (r : Direction → ℝ) (began : Instant)
    (c : RateController ℝ) : Prop where
  withinBounds : c.WithinBounds s
  reference_eq : ∀ d, c.reference.get d = r d
  signalledAt_eq : c.signalledAt = some began

theorem Anchored.tick (h : c.Anchored s r began) (hs : s.Valid) (now : Instant)
    (rttMean : Option Span) : (c.tick now rttMean).1.Anchored s r began where
  withinBounds := h.withinBounds.answer hs (.tick now rttMean)
  reference_eq d := (reference_tick c now rttMean d).trans (h.reference_eq d)
  signalledAt_eq := (signalledAt_tick c now rttMean).trans h.signalledAt_eq

/-- How far a controller is on its curves: at a point that it has reached by `now`, or beyond their
ends. -/
inductive Follows (s : RateSettings ℝ) (r : Direction → ℝ) (began now : Instant)
    (c : RateController ℝ) : Prop where
  | climbing (t : ℝ) (hnonneg : 0 ≤ t) (hnow : t ≤ (now.since began).seconds)
    (hphase : c.phase = .recovering)
    (hrate : ∀ d, c.rate.get d = s.held d (s.curve (r d) t))
  | arrived (hphase : c.phase = .growing) (hrate : ∀ d, c.rate.get d = s.ceiling d)

theorem Follows.mono (h : c.Follows s r began now) (hle : now.nanos ≤ later.nanos) :
    c.Follows s r began later := by
  cases h with
  | climbing t hnonneg hnow hphase hrate =>
    exact .climbing t hnonneg (hnow.trans (Instant.seconds_since_mono hle)) hphase hrate
  | arrived hphase hrate => exact .arrived hphase hrate

theorem Follows.phase_ne_backoff (h : c.Follows s r began now) : c.phase ≠ .backoff := by
  cases h with
  | climbing t hnonneg hnow hphase hrate => simp [hphase]
  | arrived hphase hrate => simp [hphase]

/-! ## Both ends of the curves -/

theorem Anchored.reference_bounds (h : c.Anchored s r began) (d : Direction) :
    s.rateFloorKbit ≤ r d ∧ r d ≤ s.ceiling d := by
  rw [← h.reference_eq]
  exact (h.withinBounds.within_reference d).imp of_decide_eq_true of_decide_eq_true

theorem Anchored.held_curve_zero (h : c.Anchored s r began) (hs : s.Sound) (d : Direction) :
    s.held d (s.curve (r d) 0) = max s.rateFloorKbit (s.backoffFraction * r d) := by
  obtain ⟨hfloor, hceiling⟩ := h.reference_bounds d
  rw [hs.curve_zero, hs.held_share hfloor hceiling]

theorem Anchored.rate_climbed (h : c.Anchored s r began) (hs : s.Sound)
    (hphase : c.phase = .recovering) (now : Instant) (rttMean : Option Span) (d : Direction) :
    (c.tick now rttMean).1.rate.get d =
      s.held d (s.curve (r d) (now.since began).seconds) := by
  obtain ⟨t, ht, hrate⟩ := (h.withinBounds.climbed hphase h.signalledAt_eq now rttMean).rate_eq
  rw [h.signalledAt_eq] at ht
  cases ht
  rw [hrate, ofSeconds_real, rate_real, h.reference_eq, clamp_real (hs.floor_le_ceiling d)]
  rfl

/-- Doubling leads nowhere from the ceiling. -/
theorem WithinBounds.rate_grown (h : c.WithinBounds s) (hs : s.Sound)
    (hphase : c.phase = .growing) {d : Direction} (hceiling : c.rate.get d = s.ceiling d)
    (now : Instant) (rttMean : Option Span) :
    (c.tick now rttMean).1.rate.get d = s.ceiling d := by
  have hone := hs.one_le_floor
  have hle := hs.floor_le_ceiling d
  have hdouble : s.ceiling d ≤ s.ceiling d * 2.0 := by
    norm_num
    linarith
  rw [(h.grown hphase now rttMean).rate_eq, hceiling, clamp_real hle]
  change max s.rateFloorKbit (min (s.ceiling d) (s.ceiling d * 2.0)) = s.ceiling d
  rw [min_eq_left hdouble, max_eq_right hle]

/-! ## One tick -/

/-- What a tick `t` seconds after the curves began makes of a recovering controller with the
references `r`. -/
structure Climb (s : RateSettings ℝ) (r : Direction → ℝ) (t : ℝ) (c next : RateController ℝ) :
    Prop where
  rate_eq : ∀ d, next.rate.get d = s.held d (s.curve (r d) t)
  /-- The controller grows again as soon as both directions are at the ends of their curves. -/
  arrives_iff : next.phase = .growing ↔ ∀ d, s.rateFloorKbit = s.ceiling d ∨
    s.inflection (r d) + realCubeRoot ((s.ceiling d - r d) / s.cubicConstant) ≤ t
  arrived : next.phase = .growing →
    next.totalRecoveries = c.totalRecoveries + 1 ∧ ∀ d, next.rate.get d = s.ceiling d
  stays : next.phase ≠ .growing →
    next.phase = .recovering ∧ next.totalRecoveries = c.totalRecoveries

theorem Anchored.climb (h : c.Anchored s r began) (hs : s.Valid)
    (hphase : c.phase = .recovering) (now : Instant) (rttMean : Option Span) :
    Climb s r (now.since began).seconds c (c.tick now rttMean).1 := by
  have hclimbed := h.withinBounds.climbed hphase h.signalledAt_eq now rttMean
  have hbounds := (h.tick hs now rttMean).withinBounds
  have hrate := h.rate_climbed hs.sound hphase now rttMean
  have hgrowing : (c.tick now rttMean).1.phase = .growing →
      ∀ d, atMost (s.ceiling d) ((c.tick now rttMean).1.rate.get d) = true := by
    intro hgrowing
    by_contra hbelow
    rw [(hclimbed.stays hbelow).1] at hgrowing
    cases hgrowing
  constructor
  · exact hrate
  · have hends : ∀ d, s.ceiling d ≤ (c.tick now rttMean).1.rate.get d ↔
        s.rateFloorKbit = s.ceiling d ∨
          s.inflection (r d) + realCubeRoot ((s.ceiling d - r d) / s.cubicConstant) ≤
            (now.since began).seconds := by
      intro d
      rw [hrate, hs.sound.ceiling_le_held_iff]
    rw [← forall_congr' hends]
    constructor
    · intro h d
      exact of_decide_eq_true (hgrowing h d)
    · intro hceiling
      exact (hclimbed.arrives fun d => decide_eq_true (hceiling d)).1
  · intro h
    refine ⟨(hclimbed.arrives (hgrowing h)).2, fun d => ?_⟩
    exact le_antisymm (hbounds.rate_bounds d).2 (of_decide_eq_true (hgrowing h d))
  · intro hnot
    exact hclimbed.stays fun hceiling => hnot (hclimbed.arrives hceiling).1

theorem Follows.tick (h : c.Follows s r began now) (hc : c.Anchored s r began) (hs : s.Valid)
    (later : Instant) (rttMean : Option Span) :
    (c.tick later rttMean).1.Follows s r began later := by
  cases h with
  | climbing t hnonneg hnow hphase hrate =>
    have hclimb := hc.climb hs hphase later rttMean
    by_cases hgrowing : (c.tick later rttMean).1.phase = .growing
    · exact .arrived hgrowing (hclimb.arrived hgrowing).2
    · exact .climbing _ (later.since began).seconds_nonneg le_rfl (hclimb.stays hgrowing).1
        hclimb.rate_eq
  | arrived hphase hrate =>
    refine .arrived ?_ fun d => ?_
    · exact (hc.withinBounds.grown hphase later rttMean).phase_eq
    · exact hc.withinBounds.rate_grown hs.sound hphase (hrate d) later rttMean

/-- The rates never go back, since the curves do not. -/
theorem Follows.le_rate_tick (h : c.Follows s r began now) (hc : c.Anchored s r began)
    (hs : s.Valid) (hle : now.nanos ≤ later.nanos) (rttMean : Option Span) (d : Direction) :
    c.rate.get d ≤ (c.tick later rttMean).1.rate.get d := by
  cases h with
  | climbing t hnonneg hnow hphase hrate =>
    rw [hrate, hc.rate_climbed hs.sound hphase]
    apply s.held_mono
    apply hs.sound.curve_mono
    exact hnow.trans (Instant.seconds_since_mono hle)
  | arrived hphase hrate =>
    rw [hrate, hc.withinBounds.rate_grown hs.sound hphase (hrate d)]

/-- Nor do they fall below the start of the curves. -/
theorem Follows.cut_le (h : c.Follows s r began now) (hc : c.Anchored s r began) (hs : s.Valid)
    (d : Direction) : max s.rateFloorKbit (s.backoffFraction * r d) ≤ c.rate.get d := by
  cases h with
  | climbing t hnonneg hnow hphase hrate =>
    rw [hrate, ← hc.held_curve_zero hs.sound]
    apply s.held_mono
    exact hs.sound.curve_mono hnonneg
  | arrived hphase hrate =>
    obtain ⟨hfloor, hceiling⟩ := hc.reference_bounds d
    rw [hrate, ← hs.sound.held_share hfloor hceiling]
    exact max_le (hs.sound.floor_le_ceiling d) (min_le_left _ _)

/-- What a tick at `now` makes of a controller with the references `r` whose curves began at
`began`. -/
structure CurveTick (s : RateSettings ℝ) (r : Direction → ℝ) (began now : Instant)
    (c next : RateController ℝ) : Prop where
  /-- The first tick hands on the cut rates. -/
  settles : c.phase = .backoff → next.phase = .recovering ∧
    next.totalRecoveries = c.totalRecoveries ∧ ∀ d, next.rate.get d = c.rate.get d ∧
      c.rate.get d = max s.rateFloorKbit (s.backoffFraction * r d)
  /-- The others move the rates along their curves. -/
  climbs : c.phase = .recovering → Climb s r (now.since began).seconds c next
  le_rate : ∀ d, c.rate.get d ≤ next.rate.get d
  cut_le : ∀ d, max s.rateFloorKbit (s.backoffFraction * r d) ≤ next.rate.get d
  ceiling : ∀ d, c.rate.get d = s.ceiling d → next.rate.get d = s.ceiling d

theorem Follows.curveTick (h : c.Follows s r began now) (hc : c.Anchored s r began)
    (hs : s.Valid) (hle : now.nanos ≤ later.nanos) (rttMean : Option Span) :
    c.CurveTick s r began later (c.tick later rttMean).1 := by
  have hbounds := (hc.tick hs later rttMean).withinBounds
  have hrate := h.le_rate_tick hc hs hle rttMean
  constructor
  · intro hphase
    exact absurd hphase h.phase_ne_backoff
  · intro hphase
    exact hc.climb hs hphase later rttMean
  · exact hrate
  · intro d
    exact (h.cut_le hc hs d).trans (hrate d)
  · intro d hceiling
    exact le_antisymm (hbounds.rate_bounds d).2 (hceiling.ge.trans (hrate d))

/-! ## The first tick -/

/-- A controller that has just handled an increase is at the start of its curves. -/
structure AtStart (s : RateSettings ℝ) (r : Direction → ℝ) (began : Instant)
    (c : RateController ℝ) : Prop extends Anchored s r began c where
  phase_eq : c.phase = .backoff
  rate_eq : ∀ d, c.rate.get d = max s.rateFloorKbit (s.backoffFraction * r d)

theorem WithinBounds.atStart_signal (h : c.WithinBounds s) (hs : s.Valid) (began : Instant) :
    (c.signal began).1.AtStart s c.rate.get began where
  withinBounds := h.signal hs began
  reference_eq _ := rfl
  signalledAt_eq := rfl
  phase_eq := rfl
  rate_eq d := by
    obtain ⟨hfloor, hceiling⟩ := h.rate_bounds d
    rw [rate_signal h, cutRate, clamp_real (hs.sound.floor_le_ceiling d),
      ← hs.sound.held_share hfloor hceiling, mul_comm]
    rfl

theorem AtStart.rate_tick (h : c.AtStart s r began) (now : Instant) (rttMean : Option Span)
    (d : Direction) : (c.tick now rttMean).1.rate.get d = c.rate.get d := by
  rw [tick_of_backoff h.phase_eq]
  rfl

theorem AtStart.phase_tick (h : c.AtStart s r began) (now : Instant) (rttMean : Option Span) :
    (c.tick now rttMean).1.phase = .recovering := by
  rw [tick_of_backoff h.phase_eq]
  rfl

theorem AtStart.curveTick (h : c.AtStart s r began) (now : Instant) (rttMean : Option Span) :
    c.CurveTick s r began now (c.tick now rttMean).1 := by
  have hrate := h.rate_tick now rttMean
  constructor
  · intro hphase
    refine ⟨h.phase_tick now rttMean, ?_, fun d => ⟨hrate d, h.rate_eq d⟩⟩
    rw [tick_of_backoff hphase]
    rfl
  · intro hphase
    rw [h.phase_eq] at hphase
    cases hphase
  · exact fun d => (hrate d).ge
  · exact fun d => (h.rate_eq d).ge.trans (hrate d).ge
  · exact fun d hceiling => (hrate d).trans hceiling

theorem AtStart.follows (h : c.AtStart s r began) (hs : s.Valid) (now : Instant)
    (rttMean : Option Span) : (c.tick now rttMean).1.Follows s r began now := by
  refine .climbing 0 le_rfl (now.since began).seconds_nonneg (h.phase_tick now rttMean) ?_
  intro d
  rw [h.rate_tick, h.rate_eq, h.held_curve_zero hs.sound]

/-! ## Runs of ticks -/

theorem Anchored.run_ticks (h : c.Anchored s r began) (hs : s.Valid)
    (readings : List (Instant × Option Span)) :
    (c.run (RateCall.ticks readings)).Anchored s r began := by
  induction readings generalizing c with
  | nil => exact h
  | cons p readings ih => exact ih (h.tick hs p.1 p.2)

theorem AtStart.follows_run (h : c.AtStart s r began) (hs : s.Valid)
    {readings : List (Instant × Option Span)} (hne : readings ≠ [])
    (hclock : (readings.map Prod.fst ++ [now]).Pairwise fun a b => a.nanos ≤ b.nanos) :
    (c.run (RateCall.ticks readings)).Follows s r began now := by
  induction readings using List.reverseRecOn generalizing now with
  | nil => exact absurd rfl hne
  | append_singleton readings p ih =>
    rw [List.map_append, List.map_singleton] at hclock
    obtain ⟨hearlier, -, hlast⟩ := List.pairwise_append.mp hclock
    have hle : p.1.nanos ≤ now.nanos := hlast p.1 (by simp) now (by simp)
    have hrun : c.run (RateCall.ticks (readings ++ [p])) =
        ((c.run (RateCall.ticks readings)).tick p.1 p.2).1 := by
      rw [RateCall.ticks, List.map_append]
      exact run_concat _ _ _
    rw [hrun]
    rcases eq_or_ne readings [] with rfl | hbefore
    · exact (h.follows hs p.1 p.2).mono hle
    · have hfollows := ih hbefore hearlier
      exact (hfollows.tick (h.run_ticks hs readings) hs p.1 p.2).mono hle

/-- Whatever has been called before, after a latency increase at `began` ticks at any readings that
do not go back move the rates along the curves from the rates before it, and a controller that is
through with both of them grows again. -/
theorem curveTick_run_start (s : RateSettings ℝ) (h : s.validate = .ok ()) (calls : List RateCall)
    (began : Instant) (earlier : List (Instant × Option Span)) (now : Instant)
    (rttMean : Option Span)
    (hclock : (earlier.map Prod.fst ++ [now]).Pairwise fun a b => a.nanos ≤ b.nanos) :
    new s = .ok (start s) ∧
      ∀ before c next, before = (start s).run calls →
        c = (before.signal began).1.run (RateCall.ticks earlier) →
        next = (c.tick now rttMean).1 →
        (c.phase = .backoff ↔ earlier = []) ∧
        (∀ d, c.reference.get d = before.rate.get d) ∧
        (c.answer (.tick now rttMean) = (next, some next.setpoints) ∧
          next.setpoints.map Setpoint.rateKbit = next.rate) ∧
        CurveTick s before.rate.get began now c next := by
  have hs := s.validate_eq_ok_iff.mp h
  have hnew : new s = .ok (start s) := by
    rw [new, h]
    rfl
  refine ⟨hnew, ?_⟩
  rintro before c next rfl rfl rfl
  have hbounds := (WithinBounds.start hs).run hs calls
  have hstart := hbounds.atStart_signal hs began
  have hanchored := hstart.run_ticks hs earlier
  refine ⟨?_, hanchored.reference_eq, ⟨rfl, rfl⟩, ?_⟩
  · constructor
    · intro hphase
      by_contra hne
      exact (hstart.follows_run hs hne hclock).phase_ne_backoff hphase
    · rintro rfl
      rfl
  · rcases eq_or_ne earlier [] with rfl | hne
    · exact hstart.curveTick now rttMean
    · exact (hstart.follows_run hs hne hclock).curveTick hanchored hs le_rfl rttMean

end RateController

namespace RateSettings

/-- Settings of a small link, as real numbers. -/
noncomputable def smallLink : RateSettings ℝ where
  maxUploadKbit := 10000.0
  maxDownloadKbit := 20000.0
  rateFloorKbit := 100.0
  minRtt := .ofMillis 10
  maxRtt := .ofSecs 1
  initialRtt := .ofMillis 100
  backoffFraction := 0.7
  cubicConstant := 0.4
  splitGsoThresholdKbit := 5000.0

theorem validate_smallLink : smallLink.validate = .ok () := by
  have hone : (1.0 : ℝ) ≤ 100.0 := by norm_num
  have hup : (100.0 : ℝ) ≤ 10000.0 * 0.9 := by norm_num
  have hdown : (100.0 : ℝ) ≤ 20000.0 * 0.9 := by norm_num
  rw [validate_eq_ok_iff]
  constructor
  · intro d
    cases d with
    | uplink => exact Bool.and_eq_true_iff.mpr ⟨decide_eq_true hone, decide_eq_true hup⟩
    | downlink => exact Bool.and_eq_true_iff.mpr ⟨decide_eq_true hone, decide_eq_true hdown⟩
  · rfl
  · decide
  · exact decide_eq_true (show (0.0 : ℝ) < 0.7 by norm_num)
  · exact decide_eq_true (show (0.7 : ℝ) < 1.0 by norm_num)
  · exact decide_eq_true (show (0.0 : ℝ) < 0.4 by norm_num)
  · rfl
  · exact decide_eq_true (show (0.0 : ℝ) ≤ 5000.0 by norm_num)
  · rfl

end RateSettings

namespace RateController

/-- The second tick after an increase that follows one tick of growing. -/
theorem curveTick_run_start_smallLink :
    RateSettings.smallLink.validate = .ok () ∧
      ([⟨6⟩, ⟨9⟩] : List Instant).Pairwise (fun a b => a.nanos ≤ b.nanos) ∧
      CurveTick .smallLink ((start .smallLink).run [.tick ⟨4⟩ none]).rate.get ⟨5⟩ ⟨9⟩
        ((((start .smallLink).run [.tick ⟨4⟩ none]).signal ⟨5⟩).1.run
          (RateCall.ticks [(⟨6⟩, none)]))
        (((((start .smallLink).run [.tick ⟨4⟩ none]).signal ⟨5⟩).1.run
          (RateCall.ticks [(⟨6⟩, none)])).tick ⟨9⟩ none).1 := by
  have h := RateSettings.validate_smallLink
  have hclock : ([⟨6⟩, ⟨9⟩] : List Instant).Pairwise fun a b => a.nanos ≤ b.nanos := by decide
  obtain ⟨-, hrun⟩ := curveTick_run_start .smallLink h [.tick ⟨4⟩ none] ⟨5⟩ [(⟨6⟩, none)] ⟨9⟩ none
    hclock
  obtain ⟨-, -, -, htick⟩ := hrun _ _ _ rfl rfl rfl
  exact ⟨h, hclock, htick⟩

end RateController
end AdaptiveShaper
