import AdaptiveShaper.Proofs.Shaper.Past
import Mathlib.Data.List.Chain

/-!
# Alarms

The adapter raises and lifts alarms by a flag and a counter. `Health.tidings` says the same in terms
of the attempts alone: an alarm comes with the failure at which the failures in a row reach the
threshold, and its end with the first success after that.
-/

namespace AdaptiveShaper

namespace HealthEvent

def isFailed : HealthEvent → Bool
  | .failed _ _ _ => true
  | _ => false

/-- Whether the alarm is raised or lifted; a single failure does neither. -/
def alarm? : HealthEvent → Option Bool
  | .failed _ _ _ => none
  | .degraded _ _ _ => some true
  | .recovered _ _ => some false

end HealthEvent

/-! ## One direction -/

namespace Health

/-- The failures in a row reached the threshold, and nothing has succeeded since. -/
def Raised (threshold : Nat) (past : List Attempt) : Prop :=
  ∃ before later, past = before ++ later ∧ trailingFailures before = threshold ∧
    ∀ t ∈ later, t.failed = true

theorem trailingFailures_append (past : List Attempt) {later : List Attempt}
    (h : ∀ t ∈ later, t.failed = true) :
    trailingFailures (past ++ later) = trailingFailures past + later.length := by
  induction later using List.reverseRecOn with
  | nil => simp
  | append_singleton later t ih =>
    have ht : t.failed = true := h t (by simp)
    have hlater := ih fun u hu => h u (by simp [hu])
    rw [← List.append_assoc, trailingFailures_concat_of_failed _ ht, hlater]
    simp [Nat.add_assoc]

theorem raised_iff (threshold : Nat) (past : List Attempt) :
    Raised threshold past ↔ threshold ≤ trailingFailures past := by
  constructor
  · rintro ⟨before, later, rfl, rfl, hlater⟩
    rw [trailingFailures_append _ hlater]
    exact Nat.le_add_right _ _
  · intro h
    induction past using List.reverseRecOn with
    | nil =>
      have hzero : threshold = 0 := Nat.le_zero.mp h
      exact ⟨[], [], rfl, hzero.symm, by simp⟩
    | append_singleton past t ih =>
      rcases Nat.eq_or_lt_of_le h with heq | hlt
      · exact ⟨past ++ [t], [], by simp, heq.symm, by simp⟩
      -- the threshold was reached earlier, hence the last attempt failed as well
      · have ht : t.failed = true := by
          by_contra hok
          rw [trailingFailures_concat_of_not_failed _ hok] at hlt
          exact Nat.not_lt_zero _ hlt
        rw [trailingFailures_concat_of_failed _ ht] at hlt
        obtain ⟨before, later, rfl, hbefore, hlater⟩ := ih (Nat.le_of_lt_succ hlt)
        refine ⟨before, later ++ [t], by simp, hbefore, ?_⟩
        intro u hu
        rcases List.mem_append.mp hu with hu | hu
        · exact hlater u hu
        · rw [List.mem_singleton.mp hu]
          exact ht

instance (threshold : Nat) (past : List Attempt) : Decidable (Raised threshold past) :=
  decidable_of_iff _ (raised_iff threshold past).symm

/-- What an attempt makes known about its direction, which has the attempts `past` behind it. The
end of an alarm comes with the length of the run of failures that it ends; runs longer than
`maxConsecutive` are not told apart. -/
def tidings (threshold : Nat) (past : List Attempt) (t : Attempt) : List HealthEvent :=
  match t.outcome with
  | .ok _ =>
    if Raised threshold past then
      [.recovered t.setpoint.direction (min (trailingFailures past) maxConsecutive)]
    else []
  | .error e =>
    let run := trailingFailures (past ++ [t])
    .failed t.setpoint.direction (min run maxConsecutive) e.message ::
      if run = threshold then
        [.degraded t.setpoint.direction threshold (ofPast threshold past).lastApplied]
      else []

/-- What attempts make known one after the other, with the attempts `past` behind them. -/
def story (threshold : Nat) (past : List Attempt) : List Attempt → List HealthEvent
  | [] => []
  | t :: later => tidings threshold past t ++ story threshold (past ++ [t]) later

/-- The alarms raised and lifted, in order. -/
def alarms (told : List HealthEvent) : List Bool := told.filterMap HealthEvent.alarm?

variable {threshold : Nat}

theorem events_succeed_ofPast (past : List Attempt) (s : Setpoint Float) :
    ((ofPast threshold past).succeed s).2 = tidings threshold past ⟨s, .ok ()⟩ := by
  simp only [succeed, tidings, ofPast, raised_iff, decide_eq_true_eq]

theorem events_fail_ofPast (hle : threshold ≤ maxConsecutive) (past : List Attempt)
    (s : Setpoint Float) (e : ApplyError) :
    ((ofPast threshold past).fail threshold s e).2 = tidings threshold past ⟨s, .error e⟩ := by
  have hcount : min (min (trailingFailures past) maxConsecutive + 1) maxConsecutive =
      min (trailingFailures past + 1) maxConsecutive := by omega
  have hrun := trailingFailures_concat_of_failed past (t := ⟨s, .error e⟩) rfl
  have hreaches := reaches_iff hle (trailingFailures past)
  rw [hcount] at hreaches
  simp only [fail, tidings, hrun, ofPast, hcount, hreaches, decide_eq_true_eq]

/-- An outcome makes known what the attempt makes known in view of the past. -/
theorem events_observe_ofPast (hle : threshold ≤ maxConsecutive) (past : List Attempt)
    (t : Attempt) :
    ((ofPast threshold past).observe threshold t.setpoint t.outcome).2 =
      tidings threshold past t := by
  obtain ⟨s, o⟩ := t
  cases o with
  | ok u => exact events_succeed_ofPast past s
  | error e => exact events_fail_ofPast hle past s e

theorem direction_of_mem_tidings {past : List Attempt} {t : Attempt} {e : HealthEvent}
    (h : e ∈ tidings threshold past t) : e.direction = t.setpoint.direction := by
  unfold tidings at h
  split at h
  · split at h
    · rw [List.mem_singleton.mp h]
      rfl
    · cases h
  · rcases List.mem_cons.mp h with rfl | h
    · rfl
    · split at h
      · rw [List.mem_singleton.mp h]
        rfl
      · cases h

theorem story_append (past ts later : List Attempt) :
    story threshold past (ts ++ later) =
      story threshold past ts ++ story threshold (past ++ ts) later := by
  induction ts generalizing past with
  | nil => simp [story]
  | cons t ts ih => simp [story, ih]

theorem story_concat (past : List Attempt) (t : Attempt) :
    story threshold [] (past ++ [t]) =
      story threshold [] past ++ tidings threshold past t := by
  rw [story_append]
  simp [story]

theorem countP_isFailed_tidings (past : List Attempt) (t : Attempt) :
    (tidings threshold past t).countP HealthEvent.isFailed = [t].countP Attempt.failed := by
  obtain ⟨s, o⟩ := t
  cases o with
  | ok u =>
    by_cases h : Raised threshold past
    · simp only [tidings, if_pos h]
      rfl
    · simp only [tidings, if_neg h]
      rfl
  | error e =>
    by_cases h : trailingFailures (past ++ [⟨s, .error e⟩]) = threshold
    · simp only [tidings, if_pos h]
      rfl
    · simp only [tidings, if_neg h]
      rfl

theorem countP_isFailed_story (past : List Attempt) :
    (story threshold [] past).countP HealthEvent.isFailed = past.countP Attempt.failed := by
  induction past using List.reverseRecOn with
  | nil => rfl
  | append_singleton past t ih =>
    rw [story_concat, List.countP_append, List.countP_append, ih, countP_isFailed_tidings]

/-- An attempt raises or lifts the alarm exactly if it makes a difference. -/
theorem alarms_tidings (hpos : 0 < threshold) (past : List Attempt) (t : Attempt) :
    alarms (tidings threshold past t) =
      if decide (Raised threshold past) = decide (Raised threshold (past ++ [t])) then []
      else [decide (Raised threshold (past ++ [t]))] := by
  obtain ⟨s, o⟩ := t
  cases o with
  | ok u =>
    -- a success ends the run of failures, so that an alarm can only be lifted
    have hafter : ¬ Raised threshold (past ++ [⟨s, .ok u⟩]) := by
      rw [raised_iff, trailingFailures_concat_of_not_failed past (t := ⟨s, .ok u⟩)
        Bool.false_ne_true]
      exact Nat.not_le_of_lt hpos
    by_cases h : Raised threshold past
    · simp only [tidings, if_pos h, decide_eq_true h, decide_eq_false hafter]
      rfl
    · simp only [tidings, if_neg h, decide_eq_false h, decide_eq_false hafter]
      rfl
  | error e =>
    have hbefore := raised_iff threshold past
    have hafter := raised_iff threshold (past ++ [⟨s, .error e⟩])
    have hrun := trailingFailures_concat_of_failed past (t := ⟨s, .error e⟩) rfl
    rw [hrun] at hafter
    simp only [tidings, hrun]
    by_cases h : trailingFailures past + 1 = threshold
    -- this is the failure that reaches the threshold; all others leave the alarm as it is
    · have hcalm : ¬ Raised threshold past := by
        rw [hbefore]
        omega
      have hraised : Raised threshold (past ++ [⟨s, .error e⟩]) := hafter.mpr (Nat.le_of_eq h.symm)
      rw [if_pos h, decide_eq_false hcalm, decide_eq_true hraised]
      rfl
    · have hsame : Raised threshold past ↔ Raised threshold (past ++ [⟨s, .error e⟩]) := by
        rw [hbefore, hafter]
        omega
      rw [if_neg h, if_pos (decide_eq_decide.mpr hsame)]
      rfl

/-- Alarms raised and lifted by turns, the last of which leaves a direction degraded or not. -/
structure Sounds (degraded : Bool) (alarms : List Bool) : Prop where
  alternating : (false :: alarms).IsChain (· ≠ ·)
  getLastD_eq : alarms.getLastD false = degraded
  count_eq : alarms.count true = alarms.count false + degraded.toNat

theorem Sounds.concat {degraded : Bool} {alarms : List Bool} (h : Sounds degraded alarms) :
    Sounds (!degraded) (alarms ++ [!degraded]) := by
  obtain ⟨halternating, hlast, hcount⟩ := h
  refine ⟨?_, by simp, ?_⟩
  · rw [← List.cons_append, List.isChain_append]
    refine ⟨halternating, List.isChain_singleton _, ?_⟩
    intro b hb c hc
    rw [List.getLast?_cons, ← List.getLastD_eq_getLast?, hlast] at hb
    cases hb
    cases hc
    simp
  · cases degraded <;> simp at hcount ⊢ <;> omega

theorem sounds_story (hpos : 0 < threshold) (past : List Attempt) :
    Sounds (decide (Raised threshold past)) (alarms (story threshold [] past)) := by
  induction past using List.reverseRecOn with
  | nil =>
    have hcalm : ¬ Raised threshold [] := by
      rw [raised_iff]
      exact Nat.not_le_of_lt hpos
    rw [decide_eq_false hcalm]
    exact ⟨List.isChain_singleton _, rfl, rfl⟩
  | append_singleton past t ih =>
    have halarms : alarms (story threshold [] (past ++ [t])) =
        alarms (story threshold [] past) ++ alarms (tidings threshold past t) := by
      rw [story_concat]
      exact List.filterMap_append
    rw [halarms, alarms_tidings hpos]
    split
    · next hsame =>
      rw [← hsame, List.append_nil]
      exact ih
    · next hchange =>
      have hnot : decide (Raised threshold (past ++ [t])) = !decide (Raised threshold past) :=
        Bool.eq_not_of_ne (Ne.symm hchange)
      rw [hnot]
      exact ih.concat

end Health

/-! ## Both directions -/

namespace Log

/-- Whether a record says how a direction fares. -/
def Record.concerns (d : Direction) (r : Record) : Bool :=
  r.target = "cakerate::shaper::adapter" &&
    r.fields.any fun f => f.1 = "direction" && f.2.text = d.name

end Log

theorem HealthEvent.concerns_record (e : HealthEvent) (d : Direction) :
    e.record.concerns d = true ↔ e.direction = d := by
  cases e <;>
    simp [record, direction, Log.Record.concerns, Log.Datum.text, Direction.name_eq_iff]

namespace EnforceEvent

/-- What the event says of a direction, if it does. -/
def about? (d : Direction) : EnforceEvent → Option HealthEvent
  | .actuator _ => none
  | .health e => if e.direction = d then some e else none

theorem concerns_record (e : EnforceEvent) (d : Direction) :
    e.record.concerns d = true ↔ (e.about? d).isSome = true := by
  cases e with
  | actuator a => cases a <;> simp [record, about?, ActuatorEvent.record, Log.Record.concerns]
  | health h =>
    by_cases hd : h.direction = d <;> simp [record, about?, h.concerns_record, hd]

theorem record_of_about? {d : Direction} {e : EnforceEvent} {h : HealthEvent}
    (he : e.about? d = some h) : e.record = h.record := by
  cases e with
  | actuator a => cases he
  | health g =>
    obtain ⟨_, hg⟩ := Option.ite_none_right_eq_some.mp he
    rw [← Option.some.inj hg]
    rfl

end EnforceEvent

namespace Enforcement

variable {σ : Type}

/-- What the log says of a direction. -/
def told (e : Enforcement σ) (d : Direction) : List HealthEvent :=
  e.events.filterMap (EnforceEvent.about? d)

def log (e : Enforcement σ) : List Log.Record := e.events.map EnforceEvent.record

theorem filter_log (e : Enforcement σ) (d : Direction) :
    e.log.filter (Log.Record.concerns d) = (e.told d).map HealthEvent.record := by
  unfold log told
  induction e.events with
  | nil => rfl
  | cons x events ih =>
    have hconcerns := x.concerns_record d
    rw [List.map_cons]
    cases hx : x.about? d with
    | none =>
      rw [hx, Option.isSome_none, Bool.false_eq_true, iff_false] at hconcerns
      rw [List.filter_cons_of_neg hconcerns, List.filterMap_cons_none hx, ih]
    | some h =>
      rw [hx, Option.isSome_some, eq_self, iff_true] at hconcerns
      rw [List.filter_cons_of_pos hconcerns, List.filterMap_cons_some hx, ih,
        EnforceEvent.record_of_about? hx, List.map_cons]

end Enforcement

/-! ## Series of lists -/

namespace Health

variable {threshold : Nat}

/-- What exchanges make known one after the other, with the attempts `past` behind them: first what
the actuator tells, then what the attempt means for its direction. -/
def chronicle (threshold : Nat) (past : List Attempt) : List Exchange → List EnforceEvent
  | [] => []
  | x :: later =>
    x.reply.events.map .actuator ++
      (tidings threshold (Attempt.ofDirection x.call.setpoint.direction past) x.attempt).map
        .health ++
      chronicle threshold (past ++ [x.attempt]) later

theorem chronicle_append (past : List Attempt) (xs later : List Exchange) :
    chronicle threshold past (xs ++ later) = chronicle threshold past xs ++
      chronicle threshold (past ++ xs.map Exchange.attempt) later := by
  induction xs generalizing past with
  | nil => simp [chronicle]
  | cons x xs ih => simp [chronicle, ih]

/-- Tidings are about the direction of their attempt and no other. -/
theorem filterMap_tidings (d : Direction) (past : List Attempt) (t : Attempt) :
    ((tidings threshold past t).map EnforceEvent.health).filterMap (EnforceEvent.about? d) =
      if t.setpoint.direction = d then tidings threshold past t else [] := by
  have hdirection : ∀ e ∈ tidings threshold past t, e.direction = t.setpoint.direction :=
    fun e he => direction_of_mem_tidings he
  generalize tidings threshold past t = es at hdirection
  rw [List.filterMap_map]
  split
  · next hd =>
    rw [List.filterMap_congr (g := some), List.filterMap_some]
    intro e he
    simp [EnforceEvent.about?, hdirection e he, hd]
  · next hd =>
    rw [List.filterMap_eq_nil_iff]
    intro e he
    simp [EnforceEvent.about?, hdirection e he, hd]

theorem filterMap_chronicle (d : Direction) (past : List Attempt) (xs : List Exchange) :
    (chronicle threshold past xs).filterMap (EnforceEvent.about? d) =
      story threshold (Attempt.ofDirection d past)
        (Attempt.ofDirection d (xs.map Exchange.attempt)) := by
  induction xs generalizing past with
  | nil => rfl
  | cons x xs ih =>
    have hactuator : (x.reply.events.map EnforceEvent.actuator).filterMap
        (EnforceEvent.about? d) = [] := by simp [EnforceEvent.about?]
    rw [chronicle, List.filterMap_append, List.filterMap_append, hactuator, filterMap_tidings, ih,
      List.nil_append, List.map_cons]
    by_cases hd : x.attempt.setpoint.direction = d
    · have hcons : Attempt.ofDirection d (x.attempt :: xs.map Exchange.attempt) =
          x.attempt :: Attempt.ofDirection d (xs.map Exchange.attempt) :=
        List.filter_cons_of_pos (decide_eq_true hd)
      rw [hcons, if_pos hd, story, ← hd, Attempt.ofDirection_concat_self]
      rfl
    · have hcons : Attempt.ofDirection d (x.attempt :: xs.map Exchange.attempt) =
          Attempt.ofDirection d (xs.map Exchange.attempt) :=
        List.filter_cons_of_neg (by simpa using hd)
      rw [hcons, if_neg hd, Attempt.ofDirection_concat_of_ne (Ne.symm hd), List.nil_append]

end Health

namespace Adapter

variable {interfaces : Both String} {threshold : Nat} {past : List Attempt} {a : Adapter}
variable {σ : Type}

theorem Remembers.events_observe (h : a.Remembers interfaces threshold past)
    (hle : threshold ≤ Health.maxConsecutive) (t : Attempt) :
    (a.observe t.setpoint t.outcome).2 = Health.tidings (max threshold 1)
      (Attempt.ofDirection t.setpoint.direction past) t := by
  have hmax : max threshold 1 ≤ Health.maxConsecutive := max_le hle (by decide)
  have hevents := Health.events_observe_ofPast hmax
    (Attempt.ofDirection t.setpoint.direction past) t
  rw [← h.health_eq, ← h.threshold_eq] at hevents
  rw [← h.threshold_eq]
  exact hevents

theorem Remembers.events_enforce (h : a.Remembers interfaces threshold past)
    (hle : threshold ≤ Health.maxConsecutive) (actuator : Actuator σ) (state : σ)
    (ss : List (Setpoint Float)) :
    (a.enforce actuator state ss).events =
      Health.chronicle (max threshold 1) past (a.enforce actuator state ss).exchanges := by
  induction ss generalizing a state past with
  | nil => rfl
  | cons s rest ih =>
    have hnow := h.events_observe hle ⟨s, (actuator.apply state (a.call s)).2.outcome⟩
    have hrest := ih (h.observe hle ⟨s, (actuator.apply state (a.call s)).2.outcome⟩)
      (actuator.apply state (a.call s)).1
    simp only [Adapter.enforce, Health.chronicle, note]
    rw [hrest, hnow]
    rfl

theorem Remembers.events_resumeAll {e : Enforcement σ}
    (h : e.adapter.Remembers interfaces threshold e.attempts)
    (hle : threshold ≤ Health.maxConsecutive)
    (hevents : e.events = Health.chronicle (max threshold 1) [] e.exchanges)
    (actuator : Actuator σ) (batches : List (List (Setpoint Float))) :
    (e.resumeAll actuator batches).events =
      Health.chronicle (max threshold 1) [] (e.resumeAll actuator batches).exchanges := by
  induction batches generalizing e with
  | nil => exact hevents
  | cons ss batches ih =>
    refine ih (h.resume hle actuator ss) ?_
    rw [Enforcement.exchanges_resume, Health.chronicle_append, ← hevents]
    exact congrArg (e.events ++ ·) (h.events_enforce hle actuator e.state ss)

end Adapter

/-- What the log says of a direction with the attempts `past` behind it. -/
structure Health.Truthful (threshold : Nat) (past : List Attempt) (h : Health)
    (told : List HealthEvent) : Prop where
  /-- Each failure is told of, and with it the alarm if the run of failures reaches the threshold;
  the first success after that ends the alarm. -/
  told_eq : told = story threshold [] past
  /-- Alarms are raised and lifted by turns, beginning with one that is raised. -/
  alternating : (false :: alarms told).IsChain (· ≠ ·)
  count_alarms : (alarms told).count true = (alarms told).count false + h.degraded.toNat
  count_failed : told.countP HealthEvent.isFailed = h.totalFailures

theorem Health.Truthful.of_ofPast {threshold : Nat} (hpos : 0 < threshold) (past : List Attempt) :
    Truthful threshold past (ofPast threshold past) (story threshold [] past) := by
  have hsounds := sounds_story hpos past
  rw [decide_eq_decide.mpr (raised_iff threshold past)] at hsounds
  exact ⟨rfl, hsounds.alternating, hsounds.count_eq, countP_isFailed_story past⟩

namespace Enforcement

variable {σ : Type}

/-- Whatever lists of setpoints an adapter is given and however its actuator answers: what is
logged with a call follows from the attempts made in the direction so far, and the records that
concern a direction tell the truth about it. A threshold of zero counts as one. -/
theorem truthful_resumeAll (interfaces : Both String) (threshold : UInt32) (actuator : Actuator σ)
    (port : σ) (batches : List (List (Setpoint Float))) :
    let e := (idle port (.new interfaces threshold.toNat)).resumeAll actuator batches
    e.events = Health.chronicle (max threshold.toNat 1) [] e.exchanges ∧
    ∀ d, e.log.filter (Log.Record.concerns d) = (e.told d).map HealthEvent.record ∧
      Health.Truthful (max threshold.toNat 1) (Attempt.ofDirection d e.attempts)
        (e.adapter.health.get d) (e.told d) := by
  intro e
  have hle : threshold.toNat ≤ Health.maxConsecutive := Nat.le_of_lt_succ threshold.toNat_lt
  have hidle : (idle port (Adapter.new interfaces threshold.toNat)).adapter.Remembers interfaces
      threshold.toNat (idle port (Adapter.new interfaces threshold.toNat)).attempts :=
    .new interfaces threshold.toNat
  have hevents := hidle.events_resumeAll hle rfl actuator batches
  refine ⟨hevents, fun d => ⟨e.filter_log d, ?_⟩⟩
  have htold : e.told d = Health.story (max threshold.toNat 1) []
      (Attempt.ofDirection d e.attempts) := by
    rw [told, hevents]
    exact Health.filterMap_chronicle d [] e.exchanges
  rw [htold, (hidle.resumeAll hle actuator batches).health_eq]
  exact .of_ofPast (by omega) _

/-- Three failures in a row and two successes: with a threshold of two there is one alarm. -/
example : Health.alarms (((idle [true, true, true, false, false] (.new ⟨"wan", "lan"⟩ 2)).resumeAll
    ⟨fun later c => (later.tail,
      .instant (if later.headD false then .error (Recording.failure c) else .ok ()) [])⟩
    (.replicate 5 [⟨.downlink, 900.0, 5, true⟩])).told .downlink) = [true, false] := by
  decide

end Enforcement
end AdaptiveShaper
