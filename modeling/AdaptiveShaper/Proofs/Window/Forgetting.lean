import AdaptiveShaper.Proofs.Window.Retention

/-!
# What windows forget

What rounding has made of the sum while a sample was a part of it is not undone by subtracting the
sample. But whenever as many samples have come as a multiple of the number of places, from the
second multiple on, the sum is built anew. So a window with `n` places is determined by the number
of samples and the last `2 * n - 1` of them.
-/

namespace AdaptiveShaper

/-! ## Lists with the same end -/

section Lists

variable {α : Type} {xs ys : List α} {m k : Nat}

theorem drop_eq_of_rtake_eq (hlength : xs.length = ys.length) (h : xs.rtake m = ys.rtake m)
    (hk : xs.length - m ≤ k) : xs.drop k = ys.drop k := by
  obtain ⟨j, rfl⟩ := Nat.exists_eq_add_of_le hk
  have hsame := congrArg (List.drop j) h
  rwa [List.rtake, List.rtake, List.drop_drop, List.drop_drop, ← hlength] at hsame

theorem eq_of_rtake_eq (hlength : xs.length = ys.length) (h : xs.rtake m = ys.rtake m)
    (hm : xs.length ≤ m) : xs = ys :=
  drop_eq_of_rtake_eq hlength h (k := 0) (by omega)

/-- The last places before a position lie within the last places of the whole list. -/
theorem rtake_take_eq_of_rtake_eq {n : Nat} (hlength : xs.length = ys.length)
    (h : xs.rtake m = ys.rtake m) (hk : k ≤ xs.length) (hn : xs.length - m ≤ k - n) :
    (xs.take k).rtake n = (ys.take k).rtake n := by
  have hdrop := drop_eq_of_rtake_eq hlength h hn
  rw [List.rtake, List.rtake, List.length_take_of_le hk, List.length_take_of_le (hlength ▸ hk),
    List.drop_take, List.drop_take, hdrop]

theorem rtake_append_of_le (h : m ≤ ys.length) : (xs ++ ys).rtake m = ys.rtake m := by
  have hstart : xs.length + ys.length - m = xs.length + (ys.length - m) := by omega
  rw [List.rtake, List.rtake, List.length_append, hstart, List.drop_length_add_append]

end Lists

namespace SlidingWindow

variable {α : Type} [WindowSample α] {w : SlidingWindow α} {xs ys gone : List α} {n : Nat}

/-! ## Windows with a new sum -/

/-- The window with `n` places that holds the samples `xs` and has just built its sum anew. -/
def rebuilt (hn : 0 < n) (xs : List α) : SlidingWindow α where
  capacity := n
  capacity_pos := hn
  samples := xs
  runningSum := sum xs
  evictionsSinceResum := 0

/-- The push that completes a turn of the buffer leaves a window with a new sum. -/
theorem Retains.push_of_dvd (h : w.Retains n xs gone) (hroom : n ≤ xs.length) (x : α)
    (hdvd : n ∣ xs.length + 1) : (w.push x).1 = rebuilt h.pos ((xs ++ [x]).rtake n) := by
  obtain rfl := h.capacity_eq
  have hpos := w.capacity_pos
  have hgone : gone.length + 1 = xs.length + 1 - w.capacity := by
    rw [h.gone_eq, length_rdrop]
    omega
  have hturn : w.evictionsSinceResum + 1 = w.capacity := by
    obtain ⟨q, hq⟩ : w.capacity ∣ gone.length + 1 := hgone ▸ Nat.dvd_sub hdvd (Nat.dvd_refl _)
    cases q with
    | zero => exact absurd hq (Nat.succ_ne_zero _)
    | succ q =>
      have hlast : gone.length = w.capacity * q + (w.capacity - 1) := by
        rw [Nat.mul_succ] at hq
        omega
      rw [h.evictions_eq, hlast, Nat.mul_add_mod, Nat.mod_eq_of_lt (by omega)]
      omega
  have hsamples := samples_push_eq_rtake h.samples_eq x
  obtain ⟨y, rest, _, hpush⟩ := exists_push_of_full (h.isFull_iff.mpr hroom) x
  rw [hpush, samples_resum] at hsamples
  rw [hpush, resum_of_le (Nat.le_of_eq hturn.symm), hsamples]
  rfl

theorem fst_pushAll_append (w : SlidingWindow α) (xs ys : List α) :
    (w.pushAll (xs ++ ys)).1 = ((w.pushAll xs).1.pushAll ys).1 := by
  induction ys using List.reverseRecOn with
  | nil =>
    rw [List.append_nil]
    rfl
  | append_singleton ys y ih =>
    rw [← List.append_assoc, pushAll_concat, pushAll_concat, ih]

theorem pushAll_eq_rebuilt (capacity : Nat) (hdvd : max capacity 1 ∣ xs.length)
    (hlength : 2 * max capacity 1 ≤ xs.length) :
    ((empty capacity).pushAll xs).1 =
      rebuilt (empty capacity : SlidingWindow α).capacity_pos (xs.rtake (max capacity 1)) := by
  have hpos := (empty capacity : SlidingWindow α).capacity_pos
  change 0 < max capacity 1 at hpos
  rcases xs.eq_nil_or_concat' with rfl | ⟨before, x, rfl⟩
  · rw [List.length_nil] at hlength
    omega
  · rw [List.length_append, List.length_singleton] at hdvd hlength
    rw [pushAll_concat]
    exact (retains_pushAll capacity before).push_of_dvd (by omega) x hdvd

/-! ## Forgetting -/

/-- Windows that were given equally many samples and the same last ones are the same. -/
theorem pushAll_eq_of_rtake_eq (capacity : Nat) (hlength : xs.length = ys.length)
    (h : xs.rtake (2 * max capacity 1 - 1) = ys.rtake (2 * max capacity 1 - 1)) :
    ((empty capacity).pushAll xs).1 = ((empty capacity).pushAll ys).1 := by
  rcases Nat.lt_or_ge (2 * max capacity 1 - 1) xs.length with hlong | hshort
  · -- the last multiple of the number of places is where both have built their sums anew
    obtain ⟨k, hdvd, hk, hlast⟩ : ∃ k, max capacity 1 ∣ k ∧ k ≤ xs.length ∧
        xs.length < k + max capacity 1 := by
      refine ⟨max capacity 1 * (xs.length / max capacity 1), Nat.dvd_mul_right _ _,
        Nat.mul_div_le _ _, ?_⟩
      rw [← Nat.mul_succ]
      exact Nat.lt_mul_div_succ _ (by omega)
    have htwice : 2 * max capacity 1 ≤ k := by
      obtain ⟨q, rfl⟩ := hdvd
      have hq : 1 < q := by
        by_contra hle
        have hmul := Nat.mul_le_mul_left (max capacity 1) (Nat.le_of_not_lt hle)
        omega
      rw [Nat.mul_comm]
      exact Nat.mul_le_mul_left _ hq
    have hleft : (xs.take k).length = k := List.length_take_of_le hk
    have hright : (ys.take k).length = k := List.length_take_of_le (hlength ▸ hk)
    rw [← List.take_append_drop k xs, ← List.take_append_drop k ys, fst_pushAll_append,
      fst_pushAll_append, pushAll_eq_rebuilt capacity (hleft.symm ▸ hdvd) (hleft.symm ▸ htwice),
      pushAll_eq_rebuilt capacity (hright.symm ▸ hdvd) (hright.symm ▸ htwice),
      rtake_take_eq_of_rtake_eq hlength h hk (by omega),
      drop_eq_of_rtake_eq hlength h (k := k) (by omega)]
  · rw [eq_of_rtake_eq hlength h hshort]

/-- Windows of any number of places that were given equally many samples, with the same last
`2 * n - 1` of them, are equal: in their samples, in the running sum and in the counter, and so in
all statistics. In particular no sample makes a difference once `2 * n - 1` others have come. -/
theorem forgets_pushAll (capacity : Nat) :
    (∀ xs ys : List α, xs.length = ys.length →
      xs.rtake (2 * max capacity 1 - 1) = ys.rtake (2 * max capacity 1 - 1) →
      ((empty capacity).pushAll xs).1 = ((empty capacity).pushAll ys).1) ∧
    ∀ (before later : List α) (x y : α), 2 * max capacity 1 - 1 ≤ later.length →
      ((empty capacity).pushAll (before ++ x :: later)).1 =
        ((empty capacity).pushAll (before ++ y :: later)).1 := by
  refine ⟨fun xs ys hlength h => pushAll_eq_of_rtake_eq capacity hlength h, ?_⟩
  intro before later x y hlater
  refine pushAll_eq_of_rtake_eq capacity (by simp) ?_
  rw [List.append_cons before x, List.append_cons before y, rtake_append_of_le hlater,
    rtake_append_of_le hlater]

/-- One sample less is not enough: an infinity that was evicted last still makes the sum NaN. -/
example : ((empty 2).pushAll [1.0 / 0.0, 1.0, 2.5]).1.runningSum ≠
    ((empty 2).pushAll [7.0, 1.0, 2.5]).1.runningSum := by
  decide +kernel

/-- NaN and an infinity, three samples ago and in a window with two places. -/
theorem forgets_pushAll_nonfinite :
    ([0.0 / 0.0, 1.0 / 0.0] ++ [1.0, 2.5, (-0.0 : Float)]).length =
        ([7.0, 1e18] ++ [1.0, 2.5, (-0.0 : Float)]).length ∧
      ([0.0 / 0.0, 1.0 / 0.0] ++ [1.0, 2.5, (-0.0 : Float)]).rtake (2 * max 2 1 - 1) =
        ([7.0, 1e18] ++ [1.0, 2.5, (-0.0 : Float)]).rtake (2 * max 2 1 - 1) ∧
      ((empty 2).pushAll ([0.0 / 0.0, 1.0 / 0.0] ++ [1.0, 2.5, (-0.0 : Float)])).1 =
        ((empty 2).pushAll ([7.0, 1e18] ++ [1.0, 2.5, (-0.0 : Float)])).1 ∧
      2 * max 2 1 - 1 ≤ [1.0, 2.5, (-0.0 : Float)].length ∧
      ((empty 2).pushAll ([0.5] ++ 1.0 / 0.0 :: [1.0, 2.5, (-0.0 : Float)])).1 =
        ((empty 2).pushAll ([0.5] ++ 7.0 :: [1.0, 2.5, (-0.0 : Float)])).1 := by
  have hlength : ([0.0 / 0.0, 1.0 / 0.0] ++ [1.0, 2.5, (-0.0 : Float)]).length =
      ([7.0, 1e18] ++ [1.0, 2.5, (-0.0 : Float)]).length := rfl
  have hlast : ([0.0 / 0.0, 1.0 / 0.0] ++ [1.0, 2.5, (-0.0 : Float)]).rtake (2 * max 2 1 - 1) =
      ([7.0, 1e18] ++ [1.0, 2.5, (-0.0 : Float)]).rtake (2 * max 2 1 - 1) := rfl
  have hlater : 2 * max 2 1 - 1 ≤ [1.0, 2.5, (-0.0 : Float)].length := by decide
  exact ⟨hlength, hlast, (forgets_pushAll 2).1 _ _ hlength hlast, hlater,
    (forgets_pushAll 2).2 [0.5] _ _ _ hlater⟩

end SlidingWindow
end AdaptiveShaper
