import AdaptiveShaper.Time.Span

/-!
# Sliding windows

A window keeps the most recent samples, at most `capacity` of them, oldest first. Its mean comes
from a running sum, from which evicted samples are subtracted; after `capacity` evictions the sum is
built anew. Its median is read off a selection, of which `Selection.IsOf` says which rearrangements
are allowed.
-/

namespace AdaptiveShaper

open Binary64 (Word)

/-! ## Selecting a middle value -/

/-- Numbers split around one of them. -/
structure Selection where
  below : List Word
  pivot : Word
  above : List Word

namespace Selection

def toList (s : Selection) : List Word := s.below ++ s.pivot :: s.above

/-- Whether `s` is a rearrangement of `xs` around its number of rank `rank`. -/
structure IsOf (s : Selection) (rank : Nat) (xs : List Word) : Prop where
  perm : s.toList.Perm xs
  rank_eq : s.below.length = rank
  below_le : ∀ x ∈ s.below, x ≤ s.pivot
  le_above : ∀ x ∈ s.above, s.pivot ≤ x

/-- The median of the numbers of a selection around rank `n / 2` of `n`: the middle one, or half the
sum of the two middle ones. -/
def median (s : Selection) : Word :=
  if s.toList.length % 2 = 1 then s.pivot
  else .ofFloat (((s.below.max?.getD s.pivot).toFloat + s.pivot.toFloat) / 2.0)

end Selection

def sorted (xs : List Word) : List Word := xs.mergeSort fun x y => x ≤ y

/-- A list rearranged around its number of rank `rank`, if there is one. -/
def select? (rank : Nat) (xs : List Word) : Option Selection :=
  let ys := sorted xs
  match ys.drop rank with
  | [] => none
  | pivot :: above => some ⟨ys.take rank, pivot, above⟩

/-- The median of a list of numbers, if it is not empty. -/
def median? (xs : List Word) : Option Word :=
  (select? (xs.length / 2) xs).map Selection.median

/-! ## Windows -/

/-- Samples that a window can summarise, each as a number with all its bits. -/
class WindowSample (α : Type) where
  toWord : α → Word

namespace WindowSample

instance : WindowSample Word := ⟨id⟩

instance : WindowSample Float := ⟨.ofFloat⟩

instance : WindowSample UInt64 := ⟨fun n => .ofFloat n.toFloat⟩

instance : WindowSample Span := ⟨fun d => .ofFloat d.toFloat⟩

def toFloat {α : Type} [WindowSample α] (x : α) : Float := (toWord x).toFloat

@[simp] theorem toFloat_uint64 (n : UInt64) : toFloat n = n.toFloat := Word.toFloat_ofFloat _

@[simp] theorem toFloat_span (d : Span) : toFloat d = d.toFloat := Word.toFloat_ofFloat _

end WindowSample

/-- Why a statistic is missing. -/
inductive WindowError where
  | underflow
  deriving DecidableEq

def WindowError.message : WindowError → String
  | .underflow => "statistic requested on an empty window"

/-- The most recent samples with what their mean is computed from. -/
structure SlidingWindow (α : Type) where
  capacity : Nat
  capacity_pos : 0 < capacity
  /-- The retained samples, oldest first. -/
  samples : List α
  runningSum : Float
  /-- How many samples were evicted since the sum was last built anew. -/
  evictionsSinceResum : Nat

namespace SlidingWindow

variable {α : Type}

/-- A window without samples; a capacity of zero is taken as one. There is no upper limit: a program
that sets the places aside beforehand has to fail where it has no room for them. -/
def empty (capacity : Nat) : SlidingWindow α where
  capacity := max capacity 1
  capacity_pos := by omega
  samples := []
  runningSum := 0.0
  evictionsSinceResum := 0

def length (w : SlidingWindow α) : Nat := w.samples.length

def isEmpty (w : SlidingWindow α) : Bool := w.samples.isEmpty

def isFull (w : SlidingWindow α) : Bool := w.length == w.capacity

def oldest? (w : SlidingWindow α) : Option α := w.samples.head?

def latest? (w : SlidingWindow α) : Option α := w.samples.getLast?

variable [WindowSample α]

/-- The sum of samples, added up from the left. -/
def sum (xs : List α) : Float := xs.foldl (fun s x => s + WindowSample.toFloat x) (-0.0)

def evict (w : SlidingWindow α) : SlidingWindow α × Option α :=
  match w.samples with
  | [] => (w, none)
  | x :: rest =>
    if w.isFull then
      ({ w with
          samples := rest
          runningSum := w.runningSum - WindowSample.toFloat x
          evictionsSinceResum := w.evictionsSinceResum + 1 }, some x)
    else (w, none)

/-- Builds the sum anew after as many evictions as the window has places. -/
def resum (w : SlidingWindow α) : SlidingWindow α :=
  if w.capacity ≤ w.evictionsSinceResum then
    { w with runningSum := sum w.samples, evictionsSinceResum := 0 }
  else w

def append (w : SlidingWindow α) (x : α) : SlidingWindow α :=
  { w with samples := w.samples ++ [x], runningSum := w.runningSum + WindowSample.toFloat x }

/-- Appends a sample, and gives the sample that had to leave. -/
def push (w : SlidingWindow α) (x : α) : SlidingWindow α × Option α :=
  let (w, evicted) := w.evict
  ((w.append x).resum, evicted)

/-! ## What operations do to the retained samples -/

@[simp] theorem capacity_evict (w : SlidingWindow α) : w.evict.1.capacity = w.capacity := by
  unfold evict
  split
  · rfl
  · split <;> rfl

@[simp] theorem capacity_resum (w : SlidingWindow α) : w.resum.capacity = w.capacity := by
  unfold resum
  split <;> rfl

@[simp] theorem samples_resum (w : SlidingWindow α) : w.resum.samples = w.samples := by
  unfold resum
  split <;> rfl

theorem samples_evict (w : SlidingWindow α) :
    w.evict.1.samples = if w.isFull then w.samples.tail else w.samples := by
  unfold evict
  cases h : w.samples with
  | nil => simp [h]
  | cons x rest => cases w.isFull <;> simp [h]

theorem evicted_evict (w : SlidingWindow α) :
    w.evict.2 = if w.isFull then w.samples.head? else none := by
  unfold evict
  cases h : w.samples with
  | nil => simp
  | cons x rest => cases w.isFull <;> simp

@[simp] theorem capacity_push (w : SlidingWindow α) (x : α) :
    (w.push x).1.capacity = w.capacity := by
  simp [push, append]

/-- The oldest sample leaves a full window, and the new one comes last. -/
theorem samples_push (w : SlidingWindow α) (x : α) :
    (w.push x).1.samples = (if w.isFull then w.samples.tail else w.samples) ++ [x] := by
  simp [push, append, samples_evict]

/-- A full window gives its oldest sample away, any other none. -/
theorem evicted_push (w : SlidingWindow α) (x : α) :
    (w.push x).2 = if w.isFull then w.samples.head? else none := by
  simp [push, evicted_evict]

/-! ## Statistics -/

/-- The retained samples as numbers, oldest first. -/
def words (w : SlidingWindow α) : List Word := w.samples.map WindowSample.toWord

def mean? (w : SlidingWindow α) : Except WindowError Float :=
  if w.isEmpty then .error .underflow else .ok (w.runningSum / Float.ofNat w.length)

/-- The mean of the retained samples, zero without any. -/
def mean (w : SlidingWindow α) : Float := w.mean?.toOption.getD 0.0

def median? (w : SlidingWindow α) : Except WindowError Word :=
  match AdaptiveShaper.median? w.words with
  | none => .error .underflow
  | some x => .ok x

/-- The median of the retained samples, zero without any. -/
def median (w : SlidingWindow α) : Word := w.median?.toOption.getD (.ofFloat 0.0)

/-- The mean of the retained spans, to the nearest nanosecond. -/
def meanSpan? (w : SlidingWindow Span) : Except WindowError Span :=
  w.mean?.map fun nanos => Span.ofNanos (Binary64.toWhole nanos)

/-- The mean of the retained spans, zero without any. -/
def meanSpan (w : SlidingWindow Span) : Span := w.meanSpan?.toOption.getD Span.zero

/-- Appends samples one after the other, and gives those that had to leave. -/
def pushAll (w : SlidingWindow α) (xs : List α) : SlidingWindow α × List α :=
  xs.foldl (fun (w, gone) x => let (w, evicted) := w.push x; (w, gone ++ evicted.toList)) (w, [])

end SlidingWindow
end AdaptiveShaper
