import AdaptiveShaper.Proofs.Window.Median
import Mathlib.Data.List.DropRight

/-!
# What windows retain

A window keeps the last samples pushed, as many as it has places, and gives every other one back
when it has to leave, once and in the order in which they came. `Retains` is what one push keeps.
-/

namespace AdaptiveShaper

/-! ## The end of a list -/

section Lists

variable {α : Type} {xs : List α} {n : Nat}

theorem tail_rtake_succ (h : n < xs.length) : (xs.rtake (n + 1)).tail = xs.rtake n := by
  rw [List.rtake, List.rtake, List.tail_drop]
  congr 1
  omega

theorem rtake_of_length_le (h : xs.length ≤ n) : xs.rtake n = xs := by
  rw [List.rtake, Nat.sub_eq_zero_of_le h, List.drop_zero]

theorem length_rtake (xs : List α) (n : Nat) : (xs.rtake n).length = min xs.length n := by
  rw [List.rtake, List.length_drop]
  omega

theorem head?_rtake (xs : List α) (n : Nat) : (xs.rtake n).head? = xs[xs.length - n]? := by
  rw [List.rtake, List.head?_drop]

theorem rdrop_append_rtake (xs : List α) (n : Nat) : xs.rdrop n ++ xs.rtake n = xs :=
  List.take_append_drop _ _

theorem length_rdrop (xs : List α) (n : Nat) : (xs.rdrop n).length = xs.length - n := by
  rw [List.rdrop, List.length_take]
  omega

/-- What stands before the last places grows by what leaves them. -/
theorem rdrop_concat (hn : 0 < n) (xs : List α) (x : α) : (xs ++ [x]).rdrop n =
    xs.rdrop n ++ (if n ≤ xs.length then (xs.rtake n).head? else none).toList := by
  obtain ⟨m, rfl⟩ := Nat.exists_eq_succ_of_ne_zero (Nat.ne_of_gt hn)
  rw [Nat.succ_eq_add_one, List.rdrop_concat_succ]
  split
  · next hle =>
    have hlength : xs.length - m = xs.length - (m + 1) + 1 := by omega
    rw [head?_rtake, List.rdrop, List.rdrop, hlength, List.take_add_one]
  · next hlt =>
    have hzero : xs.length - m = 0 := by omega
    have hzero' : xs.length - (m + 1) = 0 := by omega
    rw [List.rdrop, List.rdrop, hzero, hzero']
    rfl

theorem rtake_min_length (xs : List α) (n : Nat) : xs.rtake (min xs.length n) = xs.rtake n := by
  rw [List.rtake, List.rtake]
  congr 1
  omega

end Lists

namespace SlidingWindow

variable {α : Type} {w : SlidingWindow α} {xs gone : List α} {n : Nat}

/-! ## What is retained -/

/-- What a window with `n` places is after the samples `xs`, if it gave `gone` back. -/
structure Retains (n : Nat) (xs gone : List α) (w : SlidingWindow α) : Prop where
  capacity_eq : w.capacity = n
  samples_eq : w.samples = xs.rtake n
  gone_eq : gone = xs.rdrop n
  evictions_eq : w.evictionsSinceResum = gone.length % n

theorem Retains.pos (h : w.Retains n xs gone) : 0 < n := h.capacity_eq ▸ w.capacity_pos

theorem Retains.length_eq (h : w.Retains n xs gone) : w.length = min xs.length n := by
  rw [length, h.samples_eq, length_rtake]

theorem Retains.isFull_iff (h : w.Retains n xs gone) : w.isFull = true ↔ n ≤ xs.length := by
  rw [isFull, beq_iff_eq, h.length_eq, h.capacity_eq]
  omega

theorem Retains.empty (capacity : Nat) :
    (empty capacity : SlidingWindow α).Retains (max capacity 1) [] [] where
  capacity_eq := rfl
  samples_eq := (List.rtake_nil _).symm
  gone_eq := (List.rdrop_nil _).symm
  evictions_eq := (Nat.zero_mod _).symm

theorem mean?_eq_error_iff : w.mean? = .error .underflow ↔ w.samples = [] := by
  unfold mean? isEmpty
  cases w.samples <;> simp

variable [WindowSample α]

/-! ## One push -/

theorem resum_of_lt (h : w.evictionsSinceResum < w.capacity) : w.resum = w :=
  if_neg (Nat.not_le.mpr h)

theorem resum_of_le (h : w.capacity ≤ w.evictionsSinceResum) :
    w.resum = { w with runningSum := sum w.samples, evictionsSinceResum := 0 } :=
  if_pos h

theorem push_of_room (h : w.isFull = false) (x : α) : w.push x = ((w.append x).resum, none) := by
  have hevict : w.evict = (w, none) := by
    unfold evict
    split
    · rfl
    · rw [h, if_neg Bool.false_ne_true]
  rw [push, hevict]

/-- The first push completes no turn, even if there is a single place. -/
theorem fst_push_empty (capacity : Nat) (x : α) : ((empty capacity).push x).1 =
    { (empty capacity : SlidingWindow α) with
      samples := [x], runningSum := 0.0 + WindowSample.toFloat x } := by
  let w : SlidingWindow α := .empty capacity
  have hroom : w.isFull = false := beq_eq_false_iff_ne.mpr (Nat.ne_of_lt w.capacity_pos)
  have hkept : (w.append x).resum = w.append x := resum_of_lt w.capacity_pos
  rw [push_of_room hroom, hkept]
  rfl

/-- A full window lets its oldest sample go before it takes the new one. -/
def withoutOldest (w : SlidingWindow α) (oldest : α) (rest : List α) : SlidingWindow α :=
  { w with
    samples := rest
    runningSum := w.runningSum - WindowSample.toFloat oldest
    evictionsSinceResum := w.evictionsSinceResum + 1 }

theorem exists_push_of_full (h : w.isFull = true) (x : α) : ∃ y rest, w.samples = y :: rest ∧
    w.push x = (((w.withoutOldest y rest).append x).resum, some y) := by
  cases hsamples : w.samples with
  | nil =>
    have hpos := w.capacity_pos
    rw [isFull, length, hsamples, beq_iff_eq] at h
    exact absurd h (Nat.ne_of_lt hpos)
  | cons y rest =>
    refine ⟨y, rest, rfl, ?_⟩
    have hevict : w.evict = (w.withoutOldest y rest, some y) := by
      unfold evict
      rw [hsamples]
      exact if_pos h
    rw [push, hevict]

/-- The counter of evictions counts modulo the number of places. -/
theorem evictionsSinceResum_push (h : w.evictionsSinceResum < w.capacity) (x : α) :
    (w.push x).1.evictionsSinceResum =
      (w.evictionsSinceResum + if w.isFull = true then 1 else 0) % w.capacity := by
  cases hfull : w.isFull with
  | false =>
    rw [push_of_room hfull, if_neg Bool.false_ne_true, Nat.add_zero, Nat.mod_eq_of_lt h]
    have hkept : (w.append x).resum = w.append x := resum_of_lt h
    rw [hkept]
    rfl
  | true =>
    obtain ⟨y, rest, _, hpush⟩ := exists_push_of_full hfull x
    rw [hpush, if_pos rfl]
    rcases Nat.lt_or_ge (w.evictionsSinceResum + 1) w.capacity with hlt | hge
    · rw [resum_of_lt hlt, Nat.mod_eq_of_lt hlt]
      rfl
    · have hturn : w.evictionsSinceResum + 1 = w.capacity := by omega
      rw [resum_of_le hge, hturn, Nat.mod_self]

/-- A window that holds the last samples of a stream holds its last samples one sample later. -/
theorem samples_push_eq_rtake (h : w.samples = xs.rtake w.capacity) (x : α) :
    (w.push x).1.samples = (xs ++ [x]).rtake w.capacity := by
  obtain ⟨n, hn⟩ := Nat.exists_eq_succ_of_ne_zero (Nat.ne_of_gt w.capacity_pos)
  rw [hn, Nat.succ_eq_add_one] at h
  rw [samples_push, hn, List.rtake_concat_succ, isFull, length, hn, h, length_rtake]
  congr 1
  by_cases hlt : n < xs.length
  · have hfull : min xs.length (n + 1) = n + 1 := by omega
    rw [if_pos (beq_iff_eq.mpr hfull), tail_rtake_succ hlt]
  · have hroom : min xs.length (n + 1) ≠ n + 1 := by omega
    rw [if_neg (fun hfull => hroom (beq_iff_eq.mp hfull)), rtake_of_length_le (by omega),
      rtake_of_length_le (by omega)]

/-! ## Many pushes -/

theorem Retains.evicted_push (h : w.Retains n xs gone) (x : α) :
    (w.push x).2 = if n ≤ xs.length then (xs.rtake n).head? else none := by
  rw [SlidingWindow.evicted_push, h.samples_eq]
  simp only [h.isFull_iff]

theorem Retains.push (h : w.Retains n xs gone) (x : α) :
    (w.push x).1.Retains n (xs ++ [x]) (gone ++ (w.push x).2.toList) := by
  have hevicted := h.evicted_push x
  have hsamples := h.samples_eq
  rw [← h.capacity_eq] at hsamples
  have hgone : gone ++ (w.push x).2.toList = (xs ++ [x]).rdrop n := by
    rw [hevicted, rdrop_concat h.pos, h.gone_eq]
  refine ⟨?_, ?_, hgone, ?_⟩
  · rw [capacity_push, h.capacity_eq]
  · rw [samples_push_eq_rtake hsamples, h.capacity_eq]
  · have hlt : w.evictionsSinceResum < w.capacity := by
      rw [h.evictions_eq, h.capacity_eq]
      exact Nat.mod_lt _ h.pos
    -- one more sample is gone exactly if the window was full
    rw [evictionsSinceResum_push hlt, h.evictions_eq, h.capacity_eq, Nat.mod_add_mod, hgone,
      length_rdrop, h.gone_eq, length_rdrop, List.length_append, List.length_singleton]
    simp only [h.isFull_iff]
    congr 1
    split <;> omega

theorem pushAll_concat (w : SlidingWindow α) (xs : List α) (x : α) :
    w.pushAll (xs ++ [x]) = (((w.pushAll xs).1.push x).1,
      (w.pushAll xs).2 ++ ((w.pushAll xs).1.push x).2.toList) := by
  rw [pushAll, List.foldl_append]
  rfl

theorem retains_pushAll (capacity : Nat) (xs : List α) :
    ((empty capacity).pushAll xs).1.Retains (max capacity 1) xs ((empty capacity).pushAll xs).2 := by
  induction xs using List.reverseRecOn with
  | nil => exact .empty capacity
  | append_singleton xs x ih =>
    rw [pushAll_concat]
    exact ih.push x

/-! ## Statistics that are missing -/

theorem median?_eq_error_iff : w.median? = .error .underflow ↔ w.samples = [] := by
  constructor
  · intro h
    by_contra hne
    rw [median?_eq_ok hne (ascending_sorted _) (sorted_perm _)] at h
    cases h
  · intro h
    rw [median?, words_eq_nil_iff.mpr h]
    simp [AdaptiveShaper.median?, select?, sorted]

theorem meanSpan?_eq_error_iff {w : SlidingWindow Span} :
    w.meanSpan? = .error .underflow ↔ w.samples = [] := by
  rw [← mean?_eq_error_iff, meanSpan?]
  cases w.mean? with
  | error e =>
    cases e
    exact ⟨fun _ => rfl, fun _ => rfl⟩
  | ok x => exact ⟨nofun, nofun⟩

/-! ## Windows as queues -/

/-- What shows a window with `n` places to be a queue, after the samples `xs` were pushed and the
samples `gone` given back. -/
structure IsFifo (n : Nat) (xs gone : List α) (w : SlidingWindow α) : Prop where
  samples_eq : w.samples = xs.rtake (min xs.length n)
  length_eq : w.length = min xs.length n
  isFull_iff : w.isFull = true ↔ n ≤ xs.length
  oldest_eq : w.oldest? = (xs.rtake (min xs.length n)).head?
  latest_eq : w.latest? = (xs.rtake (min xs.length n)).getLast?
  /-- Every sample either is retained or was given back, once and in order. -/
  partition : gone ++ w.samples = xs
  evictions_eq : w.evictionsSinceResum = gone.length % n
  evictions_lt : w.evictionsSinceResum < n
  /-- As long as there is room, nothing is given back. -/
  push_of_lt : ∀ x, xs.length < n → (w.push x).2 = none
  /-- From then on, the sample that came `n` samples before the new one is. -/
  push_of_le : ∀ x, n ≤ xs.length → ∃ y, xs[xs.length - n]? = some y ∧ (w.push x).2 = some y

theorem Retains.isFifo (h : w.Retains n xs gone) : w.IsFifo n xs gone where
  samples_eq := by rw [rtake_min_length, h.samples_eq]
  length_eq := h.length_eq
  isFull_iff := h.isFull_iff
  oldest_eq := by rw [rtake_min_length, oldest?, h.samples_eq]
  latest_eq := by rw [rtake_min_length, latest?, h.samples_eq]
  partition := by rw [h.gone_eq, h.samples_eq, rdrop_append_rtake]
  evictions_eq := h.evictions_eq
  evictions_lt := h.evictions_eq ▸ Nat.mod_lt _ h.pos
  push_of_lt x hlt := by rw [h.evicted_push, if_neg (Nat.not_le.mpr hlt)]
  push_of_le x hle := by
    have hpos := h.pos
    refine ⟨xs[xs.length - n], List.getElem?_eq_getElem (by omega), ?_⟩
    rw [h.evicted_push, if_pos hle, head?_rtake]
    exact List.getElem?_eq_getElem (by omega)

/-- Whatever the samples and their number, a window behaves as a queue with as many places as were
asked for, at least one. Its statistics are missing exactly as long as it is empty. -/
theorem fifo_pushAll (capacity : Nat) (xs : List α) :
    ((empty capacity).pushAll xs).1.IsFifo (max capacity 1) xs ((empty capacity).pushAll xs).2 ∧
      (∀ w : SlidingWindow α, (w.mean? = .error .underflow ↔ w.samples = []) ∧
        (w.median? = .error .underflow ↔ w.samples = [])) ∧
      ∀ w : SlidingWindow Span, w.meanSpan? = .error .underflow ↔ w.samples = [] :=
  ⟨(retains_pushAll capacity xs).isFifo, fun _ => ⟨mean?_eq_error_iff, median?_eq_error_iff⟩,
    fun _ => meanSpan?_eq_error_iff⟩

end SlidingWindow
end AdaptiveShaper
