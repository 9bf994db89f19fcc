import AdaptiveShaper.Control.Run
import Mathlib.Data.List.Chain
import Mathlib.Data.List.Induction

/-!
# Timetables

A tick begins when it is due or later, never earlier. So by the rule that says when the next tick is
due, ticks are due at least one period apart, and by any time at most one tick more has begun than
there are whole periods until then.
-/

namespace AdaptiveShaper

/-- The beginning of a tick. -/
structure Beat where
  due : Nat
  start : Nat

/-- The tick after `b` is due at `due`: a period later at least, and a whole period after the
beginning of `b` if that was late by more than five milliseconds. -/
structure Beat.Spaced (period : Nat) (b : Beat) (due : Nat) : Prop where
  apart : b.due + period ≤ due
  of_late : b.due + 5_000_000 < b.start → due = b.start + period

theorem Beat.spaced_nextDue (period : Nat) (b : Beat) :
    b.Spaced period (Run.nextDue period b.due b.start) := by
  unfold Run.nextDue
  constructor
  · split <;> omega
  · intro hlate
    exact if_pos hlate

/-- Ticks that do not begin early and are due as a timer has it. -/
structure Timetable (period : Nat) (beats : List Beat) : Prop where
  due_le_start : ∀ b ∈ beats, b.due ≤ b.start
  due_eq : beats.IsChain fun b c => c.due = Run.nextDue period b.due b.start

namespace Timetable

variable {period : Nat} {beats : List Beat} {b : Beat}

theorem nil (period : Nat) : Timetable period [] := ⟨by simp, .nil⟩

theorem concat (h : Timetable period beats) (hstart : b.due ≤ b.start)
    (hdue : ∀ last ∈ beats.getLast?, b.due = Run.nextDue period last.due last.start) :
    Timetable period (beats ++ [b]) := by
  constructor
  · intro c hc
    rcases List.mem_append.mp hc with hc | hc
    · exact h.due_le_start c hc
    · rw [List.mem_singleton.mp hc]
      exact hstart
  · rw [List.isChain_append]
    refine ⟨h.due_eq, List.isChain_singleton b, ?_⟩
    intro last hlast c hc
    cases hc
    exact hdue last hlast

theorem of_concat (h : Timetable period (beats ++ [b])) : Timetable period beats :=
  ⟨fun c hc => h.due_le_start c (List.mem_append_left _ hc),
    (List.isChain_append.mp h.due_eq).1⟩

theorem spaced (h : Timetable period beats) :
    beats.IsChain fun b c => b.Spaced period c.due := by
  refine h.due_eq.imp ?_
  intro b c hdue
  rw [hdue]
  exact b.spaced_nextDue period

/-- Before each tick there was room for all ticks before it. -/
theorem length_mul_le_due (h : Timetable period (beats ++ [b])) :
    beats.length * period ≤ b.due := by
  induction beats using List.reverseRecOn generalizing b with
  | nil => simp
  | append_singleton beats last ih =>
    have hlast := ih h.of_concat
    have happart : last.due + period ≤ b.due := by
      have hchain := (List.isChain_append.mp h.spaced).2.2 last (by simp) b (by simp)
      exact hchain.apart
    rw [List.length_append, List.length_singleton, Nat.add_mul, Nat.one_mul]
    omega

/-- A timetable never bursts. -/
theorem countP_le (h : Timetable period beats) (hpos : 0 < period) (time : Nat) :
    (beats.countP fun b => b.start ≤ time) ≤ time / period + 1 := by
  induction beats using List.reverseRecOn with
  | nil => simp
  | append_singleton beats b ih =>
    by_cases hb : b.start ≤ time
    -- `b` was due by then, and all ticks before it were a period apart from each other and from it
    · have hroom := h.length_mul_le_due
      have hstart := h.due_le_start b (by simp)
      have hlength : beats.length ≤ time / period := by
        rw [Nat.le_div_iff_mul_le hpos]
        omega
      have hcount : (beats.countP fun b => b.start ≤ time) ≤ beats.length := List.countP_le_length
      simp [hb]
      omega
    · have hcount := ih h.of_concat
      simpa [hb] using hcount

end Timetable

end AdaptiveShaper
