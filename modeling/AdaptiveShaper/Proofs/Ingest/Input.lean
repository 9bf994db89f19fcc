import AdaptiveShaper.Ingest.Queue

/-!
# Inputs of the queue

Each of the three ways in has checks of its own before it goes on to the next one. Whatever the way,
a call comes to the same: the input is read, a valid span is queued and an error is refused.
-/

namespace AdaptiveShaper

inductive SampleInput where
  | nanos (n : Int)
  | span (d : Span)
  | text (input : String)

namespace SampleInput

/-- A span that is not empty and has at most `2^64 - 1` nanoseconds. -/
def checkSpan (d : Span) : Except SampleError Span :=
  if d.isZero then .error (.nonPositive 0)
  else if 0xffff_ffff_ffff_ffff < d.nanos then .error (.outOfRange d)
  else .ok d

/-- The span that an input stands for, or why it stands for none. -/
def read : SampleInput → Except SampleError Span
  | .nanos n => if n ≤ 0 then .error (.nonPositive n) else checkSpan (.ofNanos n.toNat)
  | .span d => checkSpan d
  | .text input => Sample.readSample input >>= checkSpan

theorem checkSpan_eq_ok_iff {d e : Span} :
    checkSpan d = .ok e ↔ e = d ∧ 0 < d.nanos ∧ d.nanos ≤ 0xffff_ffff_ffff_ffff := by
  unfold checkSpan Span.isZero
  constructor
  · intro h
    split at h
    · cases h
    · next hzero =>
      split at h
      · cases h
      · next hlong =>
        cases h
        simp only [beq_iff_eq] at hzero
        exact ⟨rfl, by omega, by omega⟩
  · rintro ⟨rfl, hpos, hle⟩
    have hzero : (e.nanos == 0) = false := by
      rw [beq_eq_false_iff_ne]
      omega
    rw [hzero, if_neg Bool.false_ne_true, if_neg (Nat.not_lt.mpr hle)]

/-- Whatever the way, reading ends with the check of a span unless it failed before that. -/
theorem read_cases (i : SampleInput) : (∃ d, i.read = checkSpan d) ∨
    (∃ n, i.read = .error (.nonPositive n)) ∨ ∃ s, i.read = .error (.malformed s) := by
  cases i with
  | nanos n =>
    by_cases h : n ≤ 0
    · exact .inr (.inl ⟨n, if_pos h⟩)
    · exact .inl ⟨.ofNanos n.toNat, if_neg h⟩
  | span d => exact .inl ⟨d, rfl⟩
  | text input =>
    simp only [read, Sample.readSample]
    split
    · exact .inr (.inr ⟨_, rfl⟩)
    · next n unit _ =>
      by_cases h : n ≤ 0
      · rw [if_pos h]
        exact .inr (.inl ⟨n, rfl⟩)
      · rw [if_neg h]
        exact .inl ⟨_, rfl⟩

end SampleInput

/-- Where an outcome is counted. -/
inductive Account where
  | taken
  | error
  | dropped
  | stopped
  deriving DecidableEq

def Account.ofOutcome : Except SampleError Unit → Account
  | .ok () => .taken
  | .error (.nonPositive _) => .error
  | .error (.outOfRange _) => .error
  | .error (.malformed _) => .error
  | .error .queueFull => .dropped
  | .error .stopped => .stopped

theorem SampleInput.ofOutcome_of_read {i : SampleInput} {e : SampleError}
    (h : i.read = .error e) : Account.ofOutcome (.error e) = .error := by
  rcases i.read_cases with ⟨d, hread⟩ | ⟨n, hread⟩ | ⟨s, hread⟩
  · have hcheck := hread.symm.trans h
    unfold checkSpan at hcheck
    split at hcheck
    · cases hcheck
      rfl
    · split at hcheck
      · cases hcheck
        rfl
      · cases hcheck
  · cases hread.symm.trans h
    rfl
  · cases hread.symm.trans h
    rfl

namespace IngestQueue

def record (q : IngestQueue) : SampleInput → IngestReply
  | .nanos n => q.recordNanos n
  | .span d => q.recordSpan d
  | .text input => q.recordText input

theorem recordSpan_eq (q : IngestQueue) (d : Span) :
    q.recordSpan d = match SampleInput.checkSpan d with
      | .ok d => q.enqueue d
      | .error e => q.reject e := by
  unfold recordSpan SampleInput.checkSpan
  split
  · rfl
  · split <;> rfl

/-- A call reads its input once and then asks the queue once. -/
theorem record_eq (q : IngestQueue) (i : SampleInput) :
    q.record i = match i.read with
      | .ok d => q.enqueue d
      | .error e => q.reject e := by
  cases i with
  | nanos n =>
    by_cases h : n ≤ 0
    · simp only [record, recordNanos, SampleInput.read, if_pos h]
    · simp only [record, recordNanos, SampleInput.read, if_neg h, recordSpan_eq]
  | span d => exact q.recordSpan_eq d
  | text input =>
    simp only [record, recordText, SampleInput.read]
    cases Sample.readSample input with
    | error e => rfl
    | ok d => exact q.recordSpan_eq d

theorem record_of_error {i : SampleInput} {e : SampleError} (q : IngestQueue)
    (h : i.read = .error e) : q.record i = q.reject e := by
  rw [record_eq, h]

theorem record_of_ok {i : SampleInput} {d : Span} (q : IngestQueue) (h : i.read = .ok d) :
    q.record i = q.enqueue d := by
  rw [record_eq, h]

@[simp] theorem attached_record (q : IngestQueue) (i : SampleInput) :
    (q.record i).queue.attached = q.attached := by
  rw [q.record_eq]
  cases i.read with
  | error e => rfl
  | ok d =>
    simp only [enqueue]
    split
    · rfl
    · split <;> rfl

end IngestQueue
end AdaptiveShaper
