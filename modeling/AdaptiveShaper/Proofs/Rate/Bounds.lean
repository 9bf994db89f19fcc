import AdaptiveShaper.Proofs.Binary64.Order
import AdaptiveShaper.Proofs.Rate.Run
import AdaptiveShaper.Proofs.Settings.Checks

/-!
# Rates and targets stay within their bounds

The invariant says that the bounds a controller keeps are those of its settings; this is why every
number that it holds to bounds meets a floor and a ceiling that are in order. Nothing is assumed
about sums, products, quotients and cube roots: the argument only reads comparisons.
-/

namespace AdaptiveShaper

variable {R : Type} [RateNumber R]

open RateNumber

/-- The numbers between two bounds. -/
def RateNumber.Within (lo hi x : R) : Prop := atMost lo x = true ∧ atMost x hi = true

section Order

variable [OrderedRates R]

theorem RateNumber.within_clamp {lo hi : R} (h : atMost lo hi = true) (x : R) :
    Within lo hi (clamp lo hi x) := by
  obtain ⟨hlo, hhi⟩ := OrderedRates.isNaN_of_atMost lo hi h
  unfold clamp
  split
  · exact ⟨OrderedRates.atMost_self lo hlo, h⟩
  · next hx =>
    rw [Bool.not_eq_true] at hx
    split
    · exact ⟨OrderedRates.atMost_self lo hlo, h⟩
    · next hbelow =>
      split
      · exact ⟨h, OrderedRates.atMost_self hi hhi⟩
      · next habove =>
        -- neither comparison moved `x`, and `x` can be compared with both bounds
        rw [OrderedRates.below_eq x lo hx hlo] at hbelow
        rw [OrderedRates.below_eq hi x hhi hx] at habove
        constructor
        · simpa using hbelow
        · simpa using habove

theorem RateNumber.clamp_eq_self {lo hi x : R} (hlo : atMost lo x = true)
    (hhi : atMost x hi = true) : clamp lo hi x = x := by
  obtain ⟨hlonan, hnan⟩ := OrderedRates.isNaN_of_atMost lo x hlo
  obtain ⟨_, hhinan⟩ := OrderedRates.isNaN_of_atMost x hi hhi
  rw [clamp, hnan, OrderedRates.below_eq x lo hnan hlonan, OrderedRates.below_eq hi x hhinan hnan,
    hlo, hhi]
  rfl

end Order

theorem RateNumber.clamp?_eq_some {lo hi : R} (h : atMost lo hi = true) (x : R) :
    clamp? lo hi x = some (clamp lo hi x) := by
  unfold clamp?
  split
  · next hx => simp [clamp, hx]
  · rfl

namespace DirectionRate

/-- A direction that keeps the bounds `lo` and `hi`, rate and reference between them. -/
structure WithinBounds (lo hi : R) (r : DirectionRate R) : Prop where
  floor_eq : r.floor = lo
  ceiling_eq : r.ceiling = hi
  current : Within lo hi r.current
  reference : Within lo hi r.reference

variable {lo hi : R} {r : DirectionRate R}

theorem moveTo?_eq_some (h : atMost r.floor r.ceiling = true) (x : R) :
    r.moveTo? x = some (r.moveTo x) := by
  rw [moveTo?, clamp?_eq_some h]
  rfl

theorem cut?_eq_some (h : atMost r.floor r.ceiling = true) (b : R) : r.cut? b = some (r.cut b) :=
  moveTo?_eq_some (r := { r with reference := r.current }) h _

section Order

variable [OrderedRates R]

theorem WithinBounds.moveTo (h : r.WithinBounds lo hi) (hle : atMost lo hi = true) (x : R) :
    (r.moveTo x).WithinBounds lo hi := by
  refine ⟨h.floor_eq, h.ceiling_eq, ?_, h.reference⟩
  change Within lo hi (clamp r.floor r.ceiling x)
  rw [h.floor_eq, h.ceiling_eq]
  exact within_clamp hle x

theorem WithinBounds.cut (h : r.WithinBounds lo hi) (hle : atMost lo hi = true) (b : R) :
    (r.cut b).WithinBounds lo hi := by
  have hanchored : ({ r with reference := r.current } : DirectionRate R).WithinBounds lo hi :=
    ⟨h.floor_eq, h.ceiling_eq, h.current, h.current⟩
  exact hanchored.moveTo hle _

end Order

theorem WithinBounds.ordered (h : r.WithinBounds lo hi) (hle : atMost lo hi = true) :
    atMost r.floor r.ceiling = true := by
  rw [h.floor_eq, h.ceiling_eq]
  exact hle

end DirectionRate

namespace RateController

/-- What holds of a controller with the settings `s` before and after every call. -/
structure WithinBounds (s : RateSettings R) (c : RateController R) : Prop where
  settings_eq : c.settings = s
  rates : ∀ d, (c.rates.get d).WithinBounds s.rateFloorKbit (s.ceiling d)
  minRtt_le : s.minRtt ≤ c.rttTarget
  le_maxRtt : c.rttTarget ≤ s.maxRtt

variable {s : RateSettings R} {c : RateController R}

theorem WithinBounds.ordered (h : c.WithinBounds s) (hs : s.Valid) (d : Direction) :
    atMost (c.rates.get d).floor (c.rates.get d).ceiling = true :=
  (h.rates d).ordered (hs.floor_atMost_ceiling d)

theorem WithinBounds.within_rate (h : c.WithinBounds s) (d : Direction) :
    Within s.rateFloorKbit (s.ceiling d) (c.rate.get d) := by
  rw [rate, Both.get_map]
  exact (h.rates d).current

theorem WithinBounds.within_reference (h : c.WithinBounds s) (d : Direction) :
    Within s.rateFloorKbit (s.ceiling d) (c.reference.get d) := by
  rw [reference, Both.get_map]
  exact (h.rates d).reference

/-! ### Every call keeps the bounds -/

theorem WithinBounds.retarget (h : c.WithinBounds s) (hs : s.Valid) (rttMean : Option Span) :
    (c.retarget rttMean).WithinBounds s := by
  cases rttMean with
  | none => exact ⟨h.settings_eq, h.rates, h.minRtt_le, h.le_maxRtt⟩
  | some mean =>
    obtain ⟨rfl, hrates, _, _⟩ := h
    exact ⟨rfl, hrates, Span.le_clamp hs.minRtt_le, Span.clamp_le hs.minRtt_le⟩

section Order

variable [OrderedRates R]

theorem WithinBounds.start (hs : s.Valid) : (start s).WithinBounds s := by
  refine ⟨rfl, fun d => ?_, Span.le_clamp hs.minRtt_le, Span.clamp_le hs.minRtt_le⟩
  have hle := hs.floor_atMost_ceiling d
  obtain ⟨hfloor, _⟩ := OrderedRates.isNaN_of_atMost _ _ hle
  have hmem : Within s.rateFloorKbit (s.ceiling d) s.rateFloorKbit :=
    ⟨OrderedRates.atMost_self _ hfloor, hle⟩
  cases d <;> exact ⟨rfl, rfl, hmem, hmem⟩

theorem WithinBounds.signal (h : c.WithinBounds s) (hs : s.Valid) (now : Instant) :
    (c.signal now).1.WithinBounds s := by
  refine ⟨h.settings_eq, fun d => ?_, h.minRtt_le, h.le_maxRtt⟩
  change ((c.rates.map (DirectionRate.cut c.settings.backoffFraction)).get d).WithinBounds _ _
  rw [Both.get_map]
  exact (h.rates d).cut (hs.floor_atMost_ceiling d) _

theorem WithinBounds.recover (h : c.WithinBounds s) (hs : s.Valid) (now : Instant) :
    (c.recover now).1.WithinBounds s := by
  have hrates : ∀ (elapsed : R) d,
      ((c.rates.map (DirectionRate.recover elapsed c.settings.backoffFraction
        c.settings.cubicConstant)).get d).WithinBounds s.rateFloorKbit (s.ceiling d) := by
    intro elapsed d
    rw [Both.get_map]
    exact (h.rates d).moveTo (hs.floor_atMost_ceiling d) _
  unfold RateController.recover
  simp only
  split
  · exact ⟨h.settings_eq, hrates _, h.minRtt_le, h.le_maxRtt⟩
  · exact ⟨h.settings_eq, hrates _, h.minRtt_le, h.le_maxRtt⟩

theorem WithinBounds.step (h : c.WithinBounds s) (hs : s.Valid) (now : Instant) :
    (c.step now).1.WithinBounds s := by
  unfold RateController.step
  split
  · refine ⟨h.settings_eq, fun d => ?_, h.minRtt_le, h.le_maxRtt⟩
    rw [Both.get_map]
    exact (h.rates d).moveTo (hs.floor_atMost_ceiling d) _
  · exact ⟨h.settings_eq, h.rates, h.minRtt_le, h.le_maxRtt⟩
  · exact h.recover hs now

theorem WithinBounds.answer (h : c.WithinBounds s) (hs : s.Valid) (call : RateCall) :
    (c.answer call).1.WithinBounds s := by
  cases call with
  | signal now => exact h.signal hs now
  | tick now rttMean =>
    have hcounted : ({ c with totalTicks := c.totalTicks + 1 } : RateController R).WithinBounds s :=
      ⟨h.settings_eq, h.rates, h.minRtt_le, h.le_maxRtt⟩
    exact (hcounted.step hs now).retarget hs rttMean

theorem WithinBounds.run (h : c.WithinBounds s) (hs : s.Valid) (calls : List RateCall) :
    (c.run calls).WithinBounds s := by
  induction calls generalizing c with
  | nil => exact h
  | cons call calls ih => exact ih (h.answer hs call)

end Order

/-! ### The guarded controller does not give up -/

theorem start?_eq_some (hs : s.Valid) : start? s = some (start s) := by
  rw [start?, RateSettings.clampRtt?, if_pos hs.minRtt_le]
  rfl

theorem WithinBounds.signal?_eq_some (h : c.WithinBounds s) (hs : s.Valid) (now : Instant) :
    c.signal? now = some (c.signal now).1 := by
  have hcut : c.rates.map? (DirectionRate.cut? c.settings.backoffFraction) =
      some (c.rates.map (DirectionRate.cut c.settings.backoffFraction)) :=
    Both.map?_eq_some fun d => DirectionRate.cut?_eq_some (h.ordered hs d) _
  rw [signal?, hcut]
  rfl

theorem WithinBounds.recover?_eq_some (h : c.WithinBounds s) (hs : s.Valid) (now : Instant) :
    c.recover? now = some (c.recover now).1 := by
  have hmove : ∀ elapsed b k : R, c.rates.map? (DirectionRate.recover? elapsed b k) =
      some (c.rates.map (DirectionRate.recover elapsed b k)) := fun elapsed b k =>
    Both.map?_eq_some fun d => DirectionRate.moveTo?_eq_some (h.ordered hs d) _
  rw [recover?, hmove, RateController.recover]
  simp only [Option.bind_eq_bind, Option.bind_some]
  split <;> rfl

theorem WithinBounds.step?_eq_some (h : c.WithinBounds s) (hs : s.Valid) (now : Instant) :
    c.step? now = some (c.step now).1 := by
  cases hphase : c.phase with
  | growing =>
    have hdouble : c.rates.map? DirectionRate.double? = some (c.rates.map DirectionRate.double) :=
      Both.map?_eq_some fun d => DirectionRate.moveTo?_eq_some (h.ordered hs d) _
    simp only [step?, RateController.step, hphase, hdouble, Option.map_some]
  | backoff => simp only [step?, RateController.step, hphase]
  | recovering =>
    simp only [step?, RateController.step, hphase]
    exact h.recover?_eq_some hs now

theorem WithinBounds.retarget?_eq_some (h : c.WithinBounds s) (hs : s.Valid)
    (rttMean : Option Span) : c.retarget? rttMean = some (c.retarget rttMean) := by
  cases rttMean with
  | none => rfl
  | some mean =>
    have hclamp : c.settings.clampRtt? mean = some (c.settings.clampRtt mean) := by
      rw [h.settings_eq]
      exact if_pos hs.minRtt_le
    simp only [retarget?, RateController.retarget, hclamp]
    rfl

variable [OrderedRates R]

theorem WithinBounds.answer?_eq_some (h : c.WithinBounds s) (hs : s.Valid) (call : RateCall) :
    c.answer? call = some (c.answer call).1 := by
  cases call with
  | signal now => exact h.signal?_eq_some hs now
  | tick now rttMean =>
    have hcounted : ({ c with totalTicks := c.totalTicks + 1 } : RateController R).WithinBounds s :=
      ⟨h.settings_eq, h.rates, h.minRtt_le, h.le_maxRtt⟩
    rw [answer?, hcounted.step?_eq_some hs now]
    exact (hcounted.step hs now).retarget?_eq_some hs rttMean

theorem WithinBounds.run?_eq_some (h : c.WithinBounds s) (hs : s.Valid) (calls : List RateCall) :
    c.run? calls = some (c.run calls) := by
  induction calls generalizing c with
  | nil => rfl
  | cons call calls ih =>
    rw [run?, List.foldlM_cons, h.answer?_eq_some hs call]
    exact ih (h.answer hs call)

/-! ### Runs on binary64 rates -/

/-- The rates, the references and the target of a controller lie between the bounds that the
settings `s` ask for. -/
structure Bounded (s : RateSettings Float) (c : RateController Float) : Prop where
  rate : ∀ d, s.rateFloorKbit ≤ c.rate.get d ∧ c.rate.get d ≤ s.ceiling d
  reference : ∀ d, s.rateFloorKbit ≤ c.reference.get d ∧ c.reference.get d ≤ s.ceiling d
  rttTarget : s.minRtt ≤ c.rttTarget ∧ c.rttTarget ≤ s.maxRtt

theorem WithinBounds.bounded {cubeRoot : Float → Float} {s : RateSettings Float}
    {c : RateController Float} :
    letI := RateNumber.binary64 cubeRoot
    c.WithinBounds s → c.Bounded s := by
  let := RateNumber.binary64 cubeRoot
  intro h
  have hwithin : ∀ {lo hi x : Float}, Within lo hi x → lo ≤ x ∧ x ≤ hi := fun hx =>
    ⟨of_decide_eq_true hx.1, of_decide_eq_true hx.2⟩
  refine ⟨fun d => ?_, fun d => ?_, h.minRtt_le, h.le_maxRtt⟩
  · exact hwithin (h.within_rate d)
  · exact hwithin (h.within_reference d)

/-- Whatever function stands for the cube root: accepted settings give a controller, and after any
calls at any clock readings its rates, references and target are within their bounds. The setpoints
of a tick carry the rates after it, the uplink's first. No number on the way is held to bounds that
are NaN or inverted: the guarded controller, its start included, makes the same run. -/
theorem bounded_run_start (cubeRoot : Float → Float) :
    letI := RateNumber.binary64 cubeRoot
    ∀ (s : RateSettings Float), s.validate = .ok () → ∀ calls : List RateCall,
      new s = .ok (start s) ∧
      ((start s).run calls).Bounded s ∧
      (∀ now rttMean, ∃ setpoints,
        ((start s).run calls).answer (.tick now rttMean) =
          ((start s).run (calls ++ [.tick now rttMean]), some setpoints) ∧
        setpoints.toList.map (fun p => (p.direction, p.rateKbit)) =
          [(.uplink, ((start s).run (calls ++ [.tick now rttMean])).rate.uplink),
            (.downlink, ((start s).run (calls ++ [.tick now rttMean])).rate.downlink)]) ∧
      (start? s).bind (fun c => c.run? calls) = some ((start s).run calls) := by
  let := RateNumber.binary64 cubeRoot
  have := Binary64.orderedRates cubeRoot
  intro s h calls
  have hs := s.validate_eq_ok_iff.mp h
  have hstart := WithinBounds.start hs
  refine ⟨?_, (hstart.run hs calls).bounded, fun now rttMean => ?_, ?_⟩
  · rw [new, h]
    rfl
  · refine ⟨((start s).run (calls ++ [.tick now rttMean])).setpoints, ?_, rfl⟩
    rw [run_append]
    rfl
  · rw [start?_eq_some hs]
    exact hstart.run?_eq_some hs calls

/-- A run of the standard controller whose clock goes back while the rates recover. -/
theorem bounded_run_start_standard :
    RateSettings.standard.validate = .ok () ∧
      ((start RateSettings.standard).run [.tick ⟨5⟩ none, .signal ⟨7⟩, .tick ⟨3⟩ (some .longest),
        .tick ⟨-2⟩ none]).Bounded .standard := by
  have h : RateSettings.standard.validate = .ok () := rfl
  exact ⟨h, (bounded_run_start Binary64.cubeRoot .standard h _).2.1⟩

end RateController
end AdaptiveShaper
