import AdaptiveShaper.Log.Record
import AdaptiveShaper.Sample.Reading

/-!
# Taking samples in

Samples wait in a queue of limited length until the control loop drains it. One that is no positive
span of at most `2^64 - 1` nanoseconds is rejected and counted as an error; a valid one gets the
next sequence number, and is counted as dropped if the queue is full.
-/

namespace AdaptiveShaper

/-- A sample that was taken in, with its place in the order of arrival. -/
structure RttSample where
  span : Span
  seq : Nat
  deriving DecidableEq

/-- The queue with its counters. It stands for a bounded channel, of which it assumes that samples
leave it in the order in which they came, and that one is turned away only if all places are taken
or nobody is left to drain it. -/
structure IngestQueue where
  capacity : Nat
  /-- The samples that wait, oldest first. -/
  waiting : List RttSample
  nextSeq : Nat
  errors : Nat
  dropped : Nat
  /-- Whether a loop is there to drain the queue. -/
  attached : Bool
  deriving DecidableEq

/-- What happens to samples that are not taken. -/
inductive IngestEvent where
  | rejected (error : SampleError)
  | dropped (seq : Nat)

def IngestEvent.record : IngestEvent → Log.Record
  | .rejected e =>
    ⟨.debug, "cakerate::service", "Rejected RTT sample", [("error", .phrase e.message)]⟩
  | .dropped seq =>
    ⟨.debug, "cakerate::service", "Ingestion queue full, dropping RTT sample", [("seq", .nat seq)]⟩

/-- The answer to a sample, with the queue after it. -/
structure IngestReply where
  queue : IngestQueue
  outcome : Except SampleError Unit
  events : List IngestEvent

namespace IngestQueue

def empty (capacity : Nat) : IngestQueue := ⟨capacity, [], 0, 0, 0, true⟩

def reject (q : IngestQueue) (e : SampleError) : IngestReply :=
  ⟨{ q with errors := q.errors + 1 }, .error e, [.rejected e]⟩

def enqueue (q : IngestQueue) (d : Span) : IngestReply :=
  let numbered := { q with nextSeq := q.nextSeq + 1 }
  if !q.attached then ⟨numbered, .error .stopped, []⟩
  else if q.waiting.length < q.capacity then
    ⟨{ numbered with waiting := q.waiting ++ [⟨d, q.nextSeq⟩] }, .ok (), []⟩
  else ⟨{ numbered with dropped := q.dropped + 1 }, .error .queueFull, [.dropped q.nextSeq]⟩

def recordSpan (q : IngestQueue) (d : Span) : IngestReply :=
  if d.isZero then q.reject (.nonPositive 0)
  else if 0xffff_ffff_ffff_ffff < d.nanos then q.reject (.outOfRange d)
  else q.enqueue d

def recordNanos (q : IngestQueue) (nanos : Int) : IngestReply :=
  if nanos ≤ 0 then q.reject (.nonPositive nanos) else q.recordSpan (.ofNanos nanos.toNat)

def recordText (q : IngestQueue) (input : String) : IngestReply :=
  match Sample.readSample input with
  | .error e => q.reject e
  | .ok d => q.recordSpan d

/-- Takes all waiting samples out, oldest first. -/
def drain (q : IngestQueue) : IngestQueue × List RttSample := ({ q with waiting := [] }, q.waiting)

def detach (q : IngestQueue) : IngestQueue := { q with attached := false, waiting := [] }

/-! ## What operations do to the queue -/

@[simp] theorem errors_enqueue (q : IngestQueue) (d : Span) :
    (q.enqueue d).queue.errors = q.errors := by
  unfold enqueue
  split
  · rfl
  · split <;> rfl

/-- A valid sample waits, if the queue has a place for it and is drained. -/
theorem outcome_enqueue_eq_ok_iff (q : IngestQueue) (d : Span) :
    (q.enqueue d).outcome = .ok () ↔ q.attached = true ∧ q.waiting.length < q.capacity := by
  unfold enqueue
  cases q.attached with
  | false => simp
  | true => by_cases h : q.waiting.length < q.capacity <;> simp [h]

end IngestQueue
end AdaptiveShaper
