import AdaptiveShaper.Proofs.Binary64.Whole
import AdaptiveShaper.Proofs.Window.Retention

/-!
# Exact sums

The running sum of a window loses nothing as long as the samples stand for whole numbers, and those
retained at any time add up to at most `2^53`. Then the mean is that of the retained samples alone,
as if the window had never held any others.
-/

namespace AdaptiveShaper
namespace SlidingWindow

variable {α : Type} {w : SlidingWindow α} {value : α → Nat} {xs ys : List α}

/-- What the retained samples add up to. -/
def total (value : α → Nat) (w : SlidingWindow α) : Nat := (w.samples.map value).sum

/-- Whether the running sum is what the retained samples add up to. -/
def Sums (value : α → Nat) (w : SlidingWindow α) : Prop :=
  w.runningSum = Float.ofNat (w.total value)

theorem Sums.mean?_eq (hsum : w.Sums value) (hne : w.samples ≠ []) :
    w.mean? = .ok (Float.ofNat (w.total value) / Float.ofNat w.length) := by
  rw [mean?, isEmpty, List.isEmpty_eq_false_iff.mpr hne, if_neg Bool.false_ne_true, hsum]

/-- How a window came by its samples does not show in the mean. -/
theorem Sums.mean?_congr {v : SlidingWindow α} (hw : w.Sums value) (hv : v.Sums value)
    (hsamples : v.samples = w.samples) : v.mean? = w.mean? := by
  have hrunning : v.runningSum = w.runningSum := by
    rw [hv, hw, total, total, hsamples]
  rw [mean?, mean?, isEmpty, isEmpty, length, length, hsamples, hrunning]

variable [WindowSample α]

/-- Whether samples stand for whole numbers, as far as these are exact in binary64. -/
def Counts (value : α → Nat) : Prop :=
  ∀ x, value x ≤ 2 ^ 53 → WindowSample.toFloat x = Float.ofNat (value x)

theorem counts_word : Counts UInt64.toNat := by
  intro n h
  rw [WindowSample.toFloat_uint64, Binary64.toFloat_eq_ofNat h]

theorem counts_span : Counts Span.nanos := by
  intro d _
  rw [WindowSample.toFloat_span]
  rfl

/-! ## Sums from scratch -/

theorem Counts.foldl_eq (hvalue : Counts value) (n : Nat) (h : n + (xs.map value).sum ≤ 2 ^ 53) :
    xs.foldl (fun s x => s + WindowSample.toFloat x) (Float.ofNat n) =
      Float.ofNat (n + (xs.map value).sum) := by
  induction xs generalizing n with
  | nil => rfl
  | cons x xs ih =>
    rw [List.map_cons, List.sum_cons, ← Nat.add_assoc] at h ⊢
    rw [List.foldl_cons, hvalue x (by omega), Binary64.ofNat_add_ofNat (by omega)]
    exact ih (n + value x) h

theorem Counts.sum_eq (hvalue : Counts value) (hne : xs ≠ [])
    (h : (xs.map value).sum ≤ 2 ^ 53) : sum xs = Float.ofNat (xs.map value).sum := by
  cases xs with
  | nil => exact absurd rfl hne
  | cons x xs =>
    rw [List.map_cons, List.sum_cons] at h ⊢
    rw [sum, List.foldl_cons, hvalue x (by omega), Binary64.negZero_add_ofNat (by omega)]
    exact hvalue.foldl_eq (value x) h

/-! ## One push -/

theorem total_append (w : SlidingWindow α) (x : α) :
    (w.append x).total value = w.total value + value x := by
  simp [total, append]

theorem total_resum (w : SlidingWindow α) : w.resum.total value = w.total value := by
  rw [total, samples_resum, total]

theorem total_withoutOldest {y : α} {rest : List α} (h : w.samples = y :: rest) :
    w.total value = value y + (w.withoutOldest y rest).total value := by
  rw [total, h, List.map_cons, List.sum_cons]
  rfl

theorem Sums.append (hsum : w.Sums value) (hvalue : Counts value) {x : α}
    (h : (w.append x).total value ≤ 2 ^ 53) : (w.append x).Sums value := by
  rw [total_append] at h
  change w.runningSum + WindowSample.toFloat x = _
  rw [hsum, hvalue x (by omega), Binary64.ofNat_add_ofNat h, total_append]

theorem Sums.withoutOldest (hsum : w.Sums value) (hvalue : Counts value) {y : α} {rest : List α}
    (hsamples : w.samples = y :: rest) (h : w.total value ≤ 2 ^ 53) :
    (w.withoutOldest y rest).Sums value := by
  have htotal : w.total value = value y + (w.withoutOldest y rest).total value :=
    total_withoutOldest hsamples
  change w.runningSum - WindowSample.toFloat y = _
  rw [hsum, hvalue y (by omega), Binary64.ofNat_sub_ofNat (by omega) h, htotal,
    Nat.add_sub_cancel_left]

/-- Rebuilding the sum gives the number it has already. -/
theorem Sums.resum (hsum : w.Sums value) (hvalue : Counts value) (hne : w.samples ≠ [])
    (h : w.total value ≤ 2 ^ 53) : w.resum.Sums value := by
  rcases Nat.lt_or_ge w.evictionsSinceResum w.capacity with hlt | hge
  · rwa [resum_of_lt hlt]
  · rw [resum_of_le hge]
    exact hvalue.sum_eq hne h

theorem Sums.push (hsum : w.Sums value) (hvalue : Counts value) (hbefore : w.total value ≤ 2 ^ 53)
    {x : α} (hafter : (w.push x).1.total value ≤ 2 ^ 53) : (w.push x).1.Sums value := by
  have happended : ∀ v : SlidingWindow α, (v.append x).samples ≠ [] :=
    fun v => List.append_ne_nil_of_right_ne_nil _ (List.cons_ne_nil x [])
  cases hfull : w.isFull with
  | false =>
    rw [push_of_room hfull] at hafter ⊢
    rw [total_resum] at hafter
    exact (hsum.append hvalue hafter).resum hvalue (happended _) hafter
  | true =>
    obtain ⟨y, rest, hsamples, hpush⟩ := exists_push_of_full hfull x
    rw [hpush] at hafter ⊢
    rw [total_resum] at hafter
    exact ((hsum.withoutOldest hvalue hsamples hbefore).append hvalue hafter).resum hvalue
      (happended _) hafter

/-! ## Many pushes -/

/-- Whether the retained samples never add up to more than `2^53` while the samples `xs` are
pushed. -/
def Fits (value : α → Nat) (capacity : Nat) (xs : List α) : Prop :=
  ∀ ys, ys <+: xs → ((empty capacity).pushAll ys).1.total value ≤ 2 ^ 53

theorem Fits.of_prefix {capacity : Nat} (h : Fits value capacity xs) (hys : ys <+: xs) :
    Fits value capacity ys :=
  fun _ hzs => h _ (hzs.trans hys)

theorem Fits.sums_pushAll {capacity : Nat} (h : Fits value capacity xs) (hvalue : Counts value) :
    ((empty capacity).pushAll xs).1.Sums value := by
  induction xs using List.reverseRecOn with
  | nil => exact Binary64.zero_eq_ofNat
  | append_singleton xs x ih =>
    have hprefix : xs <+: xs ++ [x] := List.prefix_append xs [x]
    have hafter := h (xs ++ [x]) (List.prefix_refl _)
    rw [pushAll_concat] at hafter ⊢
    exact (ih (h.of_prefix hprefix)).push hvalue (h xs hprefix) hafter

theorem samples_pushAll (capacity : Nat) (xs : List α) :
    ((empty capacity).pushAll xs).1.samples = xs.rtake (max capacity 1) :=
  (retains_pushAll capacity xs).samples_eq

/-- Samples that all find room are retained, so that they fit if they add up to at most `2^53`. -/
theorem fits_of_length_le {capacity : Nat} (hlength : xs.length ≤ capacity)
    (h : (xs.map value).sum ≤ 2 ^ 53) : Fits value capacity xs := by
  intro ys hys
  have hroom : ys.length ≤ max capacity 1 := by
    have hle := hys.length_le
    omega
  rw [total, samples_pushAll, rtake_of_length_le hroom]
  exact ((hys.sublist.map value).sum_le_sum fun _ _ => Nat.zero_le _).trans h

/-! ## Exactness -/

/-- What shows the running sum of a window to be the plain one. -/
structure IsExact (value : α → Nat) (w : SlidingWindow α) : Prop where
  isFinite : w.runningSum.isFinite = true
  /-- As a real number, the running sum is the sum of what the retained samples stand for. -/
  toReal_eq : Binary64.toReal w.runningSum = w.total value
  /-- Adding the retained samples up anew makes no difference. -/
  runningSum_eq : w.runningSum = sum w.samples
  mean_eq : w.mean? = .ok (Float.ofNat (w.total value) / Float.ofNat w.length)
  /-- A new window that is given the retained samples has the same mean. -/
  fresh_eq : ∀ capacity, w.length ≤ capacity →
    ((empty capacity).pushAll w.samples).1.mean? = w.mean?

theorem Sums.isExact (hsum : w.Sums value) (hvalue : Counts value) (hne : w.samples ≠ [])
    (h : w.total value ≤ 2 ^ 53) : w.IsExact value where
  isFinite := by
    rw [hsum]
    exact Binary64.isFinite_ofNat h
  toReal_eq := by
    rw [hsum]
    exact Binary64.toReal_ofNat h
  runningSum_eq := by
    rw [hsum]
    exact (hvalue.sum_eq hne h).symm
  mean_eq := hsum.mean?_eq hne
  fresh_eq capacity hlength := by
    refine hsum.mean?_congr ((fits_of_length_le hlength h).sums_pushAll hvalue) ?_
    rw [samples_pushAll, rtake_of_length_le (hlength.trans (le_max_left _ _))]

theorem Fits.isExact_pushAll {capacity : Nat} (h : Fits value capacity xs) (hvalue : Counts value)
    (hne : xs ≠ []) : ((empty capacity).pushAll xs).1.IsExact value := by
  refine (h.sums_pushAll hvalue).isExact hvalue ?_ (h xs (List.prefix_refl xs))
  have hpos := (retains_pushAll capacity xs).pos
  have hlength := List.length_pos_iff.mpr hne
  rw [samples_pushAll, ← List.length_pos_iff, length_rtake]
  omega

/-- Words and spans whose sum is never beyond `2^53` are summed up exactly, after each push and
whatever the capacity. -/
theorem exact_pushAll (capacity : Nat) :
    (∀ xs : List UInt64, Fits UInt64.toNat capacity xs → ∀ ys, ys <+: xs → ys ≠ [] →
      ((empty capacity).pushAll ys).1.IsExact UInt64.toNat) ∧
    (∀ xs : List Span, Fits Span.nanos capacity xs → ∀ ys, ys <+: xs → ys ≠ [] →
      ((empty capacity).pushAll ys).1.IsExact Span.nanos) :=
  ⟨fun _ h _ hys hne => (h.of_prefix hys).isExact_pushAll counts_word hne,
    fun _ h _ hys hne => (h.of_prefix hys).isExact_pushAll counts_span hne⟩

/-- Sums that reach the bound, on a push that rebuilds the sum. -/
theorem exact_pushAll_bound :
    Fits UInt64.toNat 2 [3, 9007199254740989, 1, 9007199254740991] ∧
      ((empty 2).pushAll [(3 : UInt64), 9007199254740989, 1, 9007199254740991]).1.IsExact
        UInt64.toNat ∧
      Fits Span.nanos 0 [.ofNanos 5, .ofNanos 9007199254740992] ∧
      ((empty 0).pushAll [Span.ofNanos 5, .ofNanos 9007199254740992]).1.IsExact Span.nanos := by
  have hwords : Fits UInt64.toNat 2 [3, 9007199254740989, 1, 9007199254740991] := by
    intro ys hys
    rw [← List.mem_inits] at hys
    revert ys
    decide
  have hspans : Fits Span.nanos 0 [.ofNanos 5, .ofNanos 9007199254740992] := by
    intro ys hys
    rw [← List.mem_inits] at hys
    revert ys
    decide
  exact ⟨hwords, (exact_pushAll 2).1 _ hwords _ (List.prefix_refl _) (List.cons_ne_nil _ _),
    hspans, (exact_pushAll 0).2 _ hspans _ (List.prefix_refl _) (List.cons_ne_nil _ _)⟩

end SlidingWindow
end AdaptiveShaper
