import AdaptiveShaper.Shaper.Enforcement
import Mathlib.Data.List.DropRight

/-!
# Health as a view of the past

The health of a direction is kept up to date outcome by outcome. `Health.ofPast` reads the same
figures off all attempts that were made in the direction, so that none depends on the other
direction or on how the setpoints were grouped.
-/

namespace AdaptiveShaper

/-- A setpoint that was to be enforced, and what came of it. -/
structure Attempt where
  setpoint : Setpoint Float
  outcome : Outcome

namespace Attempt

def failed (t : Attempt) : Bool := !t.outcome.isOk

def errorText? (t : Attempt) : Option String :=
  match t.outcome with
  | .ok _ => none
  | .error e => some e.message

/-- The attempts of one direction, in order. -/
def ofDirection (d : Direction) (past : List Attempt) : List Attempt :=
  past.filter fun t => t.setpoint.direction = d

variable {past : List Attempt} {t : Attempt}

theorem ofDirection_concat_self : ofDirection t.setpoint.direction (past ++ [t]) =
    ofDirection t.setpoint.direction past ++ [t] := by
  simp [ofDirection]

theorem ofDirection_concat_of_ne {d : Direction} (h : d ≠ t.setpoint.direction) :
    ofDirection d (past ++ [t]) = ofDirection d past := by
  simp [ofDirection, h.symm]

/-- Each failure is one of the uplink or one of the downlink. -/
theorem countP_failed (past : List Attempt) : past.countP failed =
    (ofDirection .uplink past).countP failed + (ofDirection .downlink past).countP failed := by
  induction past with
  | nil => rfl
  | cons t past ih =>
    cases hd : t.setpoint.direction <;> simp [ofDirection, List.countP_cons, hd] <;>
      simp only [ofDirection] at ih <;> omega

end Attempt

def Exchange.attempt (x : Exchange) : Attempt := ⟨x.call.setpoint, x.reply.outcome⟩

/-! ## One direction -/

namespace Health

/-- How many attempts failed since the last success. -/
def trailingFailures (past : List Attempt) : Nat := (past.rtakeWhile Attempt.failed).length

/-- The health of a direction that has the attempts `past` behind it. -/
def ofPast (threshold : Nat) (past : List Attempt) : Health where
  consecutiveFailures := min (trailingFailures past) maxConsecutive
  totalFailures := past.countP Attempt.failed
  totalApplies := past.length
  degraded := threshold ≤ trailingFailures past
  appliedLastTick := past.getLast?.any fun t => !t.failed
  lastApplied := (past.filter fun t => !t.failed).getLast?.map Attempt.setpoint
  lastError := past.getLast?.bind Attempt.errorText?

theorem trailingFailures_concat_of_failed (past : List Attempt) {t : Attempt}
    (h : t.failed = true) : trailingFailures (past ++ [t]) = trailingFailures past + 1 := by
  rw [trailingFailures, List.rtakeWhile_concat_pos _ _ _ h, List.length_append]
  rfl

theorem trailingFailures_concat_of_not_failed (past : List Attempt) {t : Attempt}
    (h : ¬ t.failed = true) : trailingFailures (past ++ [t]) = 0 := by
  rw [trailingFailures, List.rtakeWhile_concat_neg _ _ _ h]
  rfl

variable {threshold : Nat}

/-- A success forgets the failures before it. -/
theorem succeed_ofPast (hpos : 0 < threshold) (past : List Attempt) (s : Setpoint Float) :
    ((ofPast threshold past).succeed s).1 = ofPast threshold (past ++ [⟨s, .ok ()⟩]) := by
  have htrailing := trailingFailures_concat_of_not_failed past (t := ⟨s, .ok ()⟩)
    Bool.false_ne_true
  have hfailed : Attempt.failed ⟨s, .ok ()⟩ = false := rfl
  have hdegraded : ¬ threshold ≤ 0 := by omega
  simp [succeed, ofPast, htrailing, hfailed, hdegraded, Attempt.errorText?]

/-- A failure sets the flag if it makes the run of failures as long as the threshold. The counter
has not stopped growing by then, since the threshold is at most the greatest count. -/
theorem reaches_iff (hle : threshold ≤ maxConsecutive) (n : Nat) :
    (!decide (threshold ≤ n) && decide (threshold ≤ min (min n maxConsecutive + 1)
      maxConsecutive)) = decide (n + 1 = threshold) := by
  by_cases h : threshold ≤ n
  · have hne : n + 1 ≠ threshold := by omega
    simp [h, hne]
  · have hcount : threshold ≤ min (min n maxConsecutive + 1) maxConsecutive ↔
        n + 1 = threshold := by omega
    simp [h, hcount]

/-- So the flag is set if the failures in a row have reached the threshold by then. -/
theorem worsens_iff (hle : threshold ≤ maxConsecutive) (n : Nat) :
    (decide (threshold ≤ n) || (!decide (threshold ≤ n) &&
      decide (threshold ≤ min (min n maxConsecutive + 1) maxConsecutive))) =
      decide (threshold ≤ n + 1) := by
  have hreached : threshold ≤ n ∨ n + 1 = threshold ↔ threshold ≤ n + 1 := by omega
  rw [reaches_iff hle, ← Bool.decide_or]
  exact decide_eq_decide.mpr hreached

theorem fail_ofPast (hle : threshold ≤ maxConsecutive) (past : List Attempt)
    (s : Setpoint Float) (e : ApplyError) :
    ((ofPast threshold past).fail threshold s e).1 =
      ofPast threshold (past ++ [⟨s, .error e⟩]) := by
  have htrailing := trailingFailures_concat_of_failed past (t := ⟨s, .error e⟩) rfl
  have hfailed : Attempt.failed ⟨s, .error e⟩ = true := rfl
  have hcount : min (min (trailingFailures past) maxConsecutive + 1) maxConsecutive =
      min (trailingFailures past + 1) maxConsecutive := by omega
  have hdegraded := worsens_iff hle (trailingFailures past)
  rw [hcount] at hdegraded
  simp only [fail, ofPast, htrailing, hcount, hdegraded]
  simp [hfailed, Attempt.errorText?]

/-- One more outcome makes of the health what one more attempt makes of the past. -/
theorem observe_ofPast (hpos : 0 < threshold) (hle : threshold ≤ maxConsecutive)
    (past : List Attempt) (t : Attempt) :
    ((ofPast threshold past).observe threshold t.setpoint t.outcome).1 =
      ofPast threshold (past ++ [t]) := by
  obtain ⟨s, o⟩ := t
  cases o with
  | ok u => exact succeed_ofPast hpos past s
  | error e => exact fail_ofPast hle past s e

end Health

/-! ## Series of lists -/

namespace Enforcement

variable {σ : Type}

/-- Nothing was enforced yet. -/
def idle (state : σ) (a : Adapter) : Enforcement σ := ⟨state, a, [], [], 0⟩

/-- Goes on with the setpoints `ss`. -/
def resume (actuator : Actuator σ) (e : Enforcement σ) (ss : List (Setpoint Float)) :
    Enforcement σ :=
  let later := e.adapter.enforce actuator e.state ss
  { later with
    exchanges := e.exchanges ++ later.exchanges
    events := e.events ++ later.events
    failures := e.failures + later.failures }

theorem exchanges_resume (actuator : Actuator σ) (e : Enforcement σ) (ss : List (Setpoint Float)) :
    (e.resume actuator ss).exchanges =
      e.exchanges ++ (e.adapter.enforce actuator e.state ss).exchanges := rfl

/-- Goes on with one list of setpoints after the other. -/
def resumeAll (actuator : Actuator σ) (e : Enforcement σ)
    (batches : List (List (Setpoint Float))) : Enforcement σ :=
  batches.foldl (resume actuator) e

def attempts (e : Enforcement σ) : List Attempt := e.exchanges.map Exchange.attempt

end Enforcement

/-- What an adapter for some interfaces and a threshold is after the attempts `past`: the health of
each direction is read off the attempts of that direction. -/
structure Adapter.Remembers (interfaces : Both String) (threshold : Nat) (past : List Attempt)
    (a : Adapter) : Prop where
  interfaces_eq : a.interfaces = interfaces
  threshold_eq : a.threshold = max threshold 1
  health_eq : ∀ d, a.health.get d = .ofPast (max threshold 1) (Attempt.ofDirection d past)

namespace Adapter

variable {interfaces : Both String} {threshold : Nat} {past : List Attempt} {a : Adapter}

theorem Remembers.new (interfaces : Both String) (threshold : Nat) :
    (new interfaces threshold).Remembers interfaces threshold [] := by
  refine ⟨rfl, rfl, fun d => ?_⟩
  have hdegraded : ¬ max threshold 1 ≤ 0 := by omega
  cases d <;> simp [Adapter.new, Both.same, Both.get, Health.fresh, Health.ofPast,
    Health.trailingFailures, Attempt.ofDirection]

theorem health_observe (a : Adapter) (t : Attempt) : (a.observe t.setpoint t.outcome).1.health =
    a.health.set t.setpoint.direction
      ((a.health.get t.setpoint.direction).observe a.threshold t.setpoint t.outcome).1 := rfl

theorem Remembers.observe (h : a.Remembers interfaces threshold past)
    (hle : threshold ≤ Health.maxConsecutive) (t : Attempt) :
    (a.observe t.setpoint t.outcome).1.Remembers interfaces threshold (past ++ [t]) := by
  obtain ⟨hinterfaces, hthreshold, hhealth⟩ := h
  refine ⟨hinterfaces, hthreshold, fun d => ?_⟩
  have hpos : 0 < max threshold 1 := by omega
  have hmax : max threshold 1 ≤ Health.maxConsecutive := max_le hle (by decide)
  rw [health_observe, hthreshold]
  by_cases hd : d = t.setpoint.direction
  · subst hd
    rw [Both.get_set_self, hhealth, Attempt.ofDirection_concat_self]
    exact Health.observe_ofPast hpos hmax _ t
  · rw [Both.get_set_of_ne _ hd, Attempt.ofDirection_concat_of_ne hd, hhealth]

variable {σ : Type}

theorem Remembers.enforce (h : a.Remembers interfaces threshold past)
    (hle : threshold ≤ Health.maxConsecutive) (actuator : Actuator σ) (state : σ)
    (ss : List (Setpoint Float)) :
    (a.enforce actuator state ss).adapter.Remembers interfaces threshold
      (past ++ (a.enforce actuator state ss).attempts) := by
  induction ss generalizing a state past with
  | nil =>
    change a.Remembers interfaces threshold (past ++ [])
    rw [List.append_nil]
    exact h
  | cons s rest ih =>
    have hnext := h.observe hle ⟨s, (actuator.apply state (a.call s)).2.outcome⟩
    have hrest := ih hnext (actuator.apply state (a.call s)).1
    rw [List.append_assoc] at hrest
    exact hrest

theorem Remembers.resume {e : Enforcement σ}
    (h : e.adapter.Remembers interfaces threshold e.attempts)
    (hle : threshold ≤ Health.maxConsecutive) (actuator : Actuator σ)
    (ss : List (Setpoint Float)) :
    (e.resume actuator ss).adapter.Remembers interfaces threshold
      (e.resume actuator ss).attempts := by
  have hnext := h.enforce hle actuator e.state ss
  rw [Enforcement.attempts, Enforcement.exchanges_resume, List.map_append]
  exact hnext

theorem Remembers.resumeAll {e : Enforcement σ}
    (h : e.adapter.Remembers interfaces threshold e.attempts)
    (hle : threshold ≤ Health.maxConsecutive) (actuator : Actuator σ)
    (batches : List (List (Setpoint Float))) :
    (e.resumeAll actuator batches).adapter.Remembers interfaces threshold
      (e.resumeAll actuator batches).attempts := by
  induction batches generalizing e with
  | nil => exact h
  | cons ss batches ih => exact ih (h.resume hle actuator ss)

theorem state_enforce (actuator : Actuator σ) (state : σ) (a : Adapter)
    (ss : List (Setpoint Float)) :
    (a.enforce actuator state ss).state =
      (a.calls ss).foldl (fun t c => (actuator.apply t c).1) state := by
  induction ss generalizing state a with
  | nil => rfl
  | cons s rest ih => exact ih _ (a.observe s (actuator.apply state (a.call s)).2.outcome).1

theorem Remembers.calls_eq (h : a.Remembers interfaces threshold past)
    (ss : List (Setpoint Float)) :
    a.calls ss = ss.map fun s => ⟨interfaces.get s.direction, s⟩ := by
  rw [← h.interfaces_eq]
  rfl

theorem Remembers.calls_resumeAll {e : Enforcement σ}
    (h : e.adapter.Remembers interfaces threshold e.attempts)
    (hle : threshold ≤ Health.maxConsecutive) (actuator : Actuator σ)
    (batches : List (List (Setpoint Float))) :
    (e.resumeAll actuator batches).exchanges.map Exchange.call =
      e.exchanges.map Exchange.call ++
        batches.flatten.map fun s => ⟨interfaces.get s.direction, s⟩ := by
  induction batches generalizing e with
  | nil => exact (List.append_nil _).symm
  | cons ss batches ih =>
    have hcalls := calls_enforce actuator e.state e.adapter ss
    rw [h.calls_eq] at hcalls
    have hrest := ih (h.resume hle actuator ss)
    rw [Enforcement.exchanges_resume, List.map_append, hcalls, List.append_assoc,
      ← List.map_append] at hrest
    exact hrest

/-- The counter of failures comes to the number of failed attempts. -/
theorem failures_enforce (actuator : Actuator σ) (state : σ) (a : Adapter)
    (ss : List (Setpoint Float)) : (a.enforce actuator state ss).failures =
      (a.enforce actuator state ss).attempts.countP Attempt.failed := by
  induction ss generalizing state a with
  | nil => rfl
  | cons s rest ih =>
    simp only [enforce, Enforcement.attempts, List.map_cons, List.countP_cons,
      Exchange.attempt, Reply.count]
    cases ho : (actuator.apply state (a.call s)).2.outcome with
    | ok u => exact ih _ _
    | error e => exact congrArg (· + 1) (ih _ _)

/-- The failures told of a list of setpoints are those that the two directions count in addition. -/
theorem Remembers.totalFailures_enforce (h : a.Remembers interfaces threshold past)
    (hle : threshold ≤ Health.maxConsecutive) (actuator : Actuator σ) (state : σ)
    (ss : List (Setpoint Float)) :
    (a.enforce actuator state ss).adapter.health.uplink.totalFailures +
        (a.enforce actuator state ss).adapter.health.downlink.totalFailures =
      a.health.uplink.totalFailures + a.health.downlink.totalFailures +
        (a.enforce actuator state ss).failures := by
  have htotal : ∀ {b : Adapter} {later : List Attempt}, b.Remembers interfaces threshold later →
      b.health.uplink.totalFailures + b.health.downlink.totalFailures =
        later.countP Attempt.failed := by
    intro b later hb
    have hup := congrArg Health.totalFailures (hb.health_eq .uplink)
    have hdown := congrArg Health.totalFailures (hb.health_eq .downlink)
    rw [Attempt.countP_failed later]
    exact congrArg₂ (· + ·) hup hdown
  rw [htotal h, htotal (h.enforce hle actuator state ss), failures_enforce,
    List.countP_append]

end Adapter

namespace Enforcement

variable {σ : Type}

/-- Whatever lists of setpoints an adapter is given and however its actuator answers: the actuator
meets one call for each setpoint, in order and on the interface of its direction; the failures told
of a list are the failed calls of that list; and the health of each direction is read off the
attempts of that direction. A threshold of zero counts as one. -/
theorem health_resumeAll (interfaces : Both String) (threshold : UInt32) (actuator : Actuator σ)
    (port : σ) (batches : List (List (Setpoint Float))) :
    let e := (idle port (.new interfaces threshold.toNat)).resumeAll actuator batches
    (∀ d, e.adapter.health.get d =
      .ofPast (max threshold.toNat 1) (Attempt.ofDirection d e.attempts)) ∧
    e.exchanges.map Exchange.call =
      batches.flatten.map (fun s => ⟨interfaces.get s.direction, s⟩) ∧
    ∀ ss, let calls : List Call := ss.map fun s => ⟨interfaces.get s.direction, s⟩
      let next := e.adapter.enforce actuator e.state ss
      next.exchanges.map Exchange.call = calls ∧
      next.state = calls.foldl (fun t c => (actuator.apply t c).1) e.state ∧
      next.failures = next.attempts.countP Attempt.failed ∧
      next.adapter.health.uplink.totalFailures + next.adapter.health.downlink.totalFailures =
        e.adapter.health.uplink.totalFailures + e.adapter.health.downlink.totalFailures +
          next.failures := by
  intro e
  have hle : threshold.toNat ≤ Health.maxConsecutive := Nat.le_of_lt_succ threshold.toNat_lt
  have hidle : (idle port (Adapter.new interfaces threshold.toNat)).adapter.Remembers interfaces
      threshold.toNat (idle port (Adapter.new interfaces threshold.toNat)).attempts :=
    .new interfaces threshold.toNat
  have hlast := hidle.resumeAll hle actuator batches
  refine ⟨hlast.health_eq, hidle.calls_resumeAll hle actuator batches, fun ss => ?_⟩
  rw [← hlast.calls_eq]
  refine ⟨Adapter.calls_enforce _ _ _ ss, Adapter.state_enforce _ _ _ ss,
    Adapter.failures_enforce _ _ _ ss, ?_⟩
  exact hlast.totalFailures_enforce hle actuator _ ss

/-- The uplink fails twice, with a list of the downlink alone in between. -/
example : ((idle ⟨[], ⟨true, false⟩⟩ (.new ⟨"wan", "lan"⟩ 2)).resumeAll .recording
    [[⟨.uplink, 900.0, 5, true⟩], [⟨.downlink, 800.0, 5, true⟩],
      [⟨.uplink, 700.0, 5, false⟩]]).adapter.health.map Health.degraded = ⟨true, false⟩ := by
  decide

end Enforcement
end AdaptiveShaper
