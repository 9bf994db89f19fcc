import AdaptiveShaper.Proofs.Binary64.Quotients
import AdaptiveShaper.Proofs.Ingest.Input
import AdaptiveShaper.Proofs.Window.ExactSum
import AdaptiveShaper.Proofs.Window.Forgetting

/-!
# Where the mean lies

The mean of a window that sums exactly lies between the least and the greatest retained span. Since
windows forget, only the last `2 * n - 1` spans have to add up exactly in a window with `n` places.
But spans that come while a long one is there may be lost in the sum, and when it leaves, the mean
is below all retained spans.
-/

namespace AdaptiveShaper

/-- The nanoseconds of a span after it was converted to binary64 and back. -/
def Span.roundedNanos (d : Span) : Nat := Binary64.toWhole d.toFloat

namespace SlidingWindow

variable {w : SlidingWindow Span} {value : Span → Nat} {capacity : Nat} {xs : List Span}

/-- The mean is there and lies between the least and the greatest retained span, both measured by
`value`. -/
def MeanWithin (value : Span → Nat) (w : SlidingWindow Span) : Prop :=
  ∃ mean lo hi, w.meanSpan? = .ok mean ∧ lo ∈ w.samples ∧ hi ∈ w.samples ∧
    (∀ x ∈ w.samples, lo ≤ x ∧ x ≤ hi) ∧ value lo ≤ mean.nanos ∧ mean.nanos ≤ value hi

theorem nanos_of_toWhole (x : Float) :
    (Span.ofNanos (Binary64.toWhole x)).nanos = Binary64.toWhole x := by
  have hle := Binary64.toWhole_le x
  rw [Span.nanos_ofNanos]
  exact Nat.min_eq_left (hle.trans (by decide))

/-! ## Exact sums -/

theorem exists_least (hne : xs ≠ []) : ∃ lo ∈ xs, ∀ x ∈ xs, lo ≤ x := by
  have hsome : xs.toFinset.Nonempty := List.toFinset_nonempty_iff xs |>.mpr hne
  obtain ⟨lo, hlo, hleast⟩ := xs.toFinset.exists_min_image Span.nanos hsome
  exact ⟨lo, List.mem_toFinset.mp hlo, fun x hx => hleast x (List.mem_toFinset.mpr hx)⟩

theorem exists_greatest (hne : xs ≠ []) : ∃ hi ∈ xs, ∀ x ∈ xs, x ≤ hi := by
  have hsome : xs.toFinset.Nonempty := List.toFinset_nonempty_iff xs |>.mpr hne
  obtain ⟨hi, hhi, hgreatest⟩ := xs.toFinset.exists_max_image Span.nanos hsome
  exact ⟨hi, List.mem_toFinset.mp hhi, fun x hx => hgreatest x (List.mem_toFinset.mpr hx)⟩

/-- The total of the retained spans is at least as often the least one as there are spans. -/
theorem length_mul_le_total {lo : Span} (h : ∀ x ∈ w.samples, lo ≤ x) :
    lo.nanos * w.length ≤ w.total Span.nanos := by
  have hsum := List.card_nsmul_le_sum (w.samples.map Span.nanos) lo.nanos
    (by simpa [Span.le_iff] using h)
  rwa [List.length_map, smul_eq_mul, Nat.mul_comm] at hsum

theorem total_le_length_mul {hi : Span} (h : ∀ x ∈ w.samples, x ≤ hi) :
    w.total Span.nanos ≤ hi.nanos * w.length := by
  have hsum := List.sum_le_card_nsmul (w.samples.map Span.nanos) hi.nanos
    (by simpa [Span.le_iff] using h)
  rwa [List.length_map, smul_eq_mul, Nat.mul_comm] at hsum

theorem Sums.meanWithin (hsum : w.Sums Span.nanos) (hne : w.samples ≠ [])
    (hpos : ∀ x ∈ w.samples, 0 < x.nanos) (h : w.total Span.nanos ≤ 2 ^ 53) :
    w.MeanWithin Span.nanos := by
  obtain ⟨lo, hlo, hleast⟩ := exists_least hne
  obtain ⟨hi, hhi, hgreatest⟩ := exists_greatest hne
  have hlow := length_mul_le_total hleast
  have hhigh := total_le_length_mul hgreatest
  have hlength : 0 < w.length := List.length_pos_iff.mpr hne
  have hcount : w.length ≤ lo.nanos * w.length := Nat.le_mul_of_pos_left _ (hpos lo hlo)
  have hquotient := Binary64.toWhole_div_ofNat (a := w.total Span.nanos) (n := w.length) (by omega)
    h hlength (by omega)
  refine ⟨_, lo, hi, congrArg (Except.map _) (hsum.mean?_eq hne), hlo, hhi,
    fun x hx => ⟨hleast x hx, hgreatest x hx⟩, ?_, ?_⟩
  · rw [nanos_of_toWhole]
    exact (hquotient lo.nanos).1 hlow
  · rw [nanos_of_toWhole]
    exact (hquotient hi.nanos).2 hhigh

/-! ## Spans that are forgotten -/

theorem total_pushAll (capacity : Nat) (xs : List Span) :
    ((empty capacity).pushAll xs).1.total Span.nanos =
      ((xs.rtake (max capacity 1)).map Span.nanos).sum := by
  rw [total, samples_pushAll]

theorem total_pushAll_replicate_append (capacity k : Nat) (xs : List Span) :
    ((empty capacity).pushAll (List.replicate k Span.zero ++ xs)).1.total Span.nanos =
      ((empty capacity).pushAll xs).1.total Span.nanos := by
  have hstart : k + xs.length - max capacity 1 - k = xs.length - max capacity 1 := by omega
  rw [total_pushAll, total_pushAll, List.rtake, List.rtake, List.length_append,
    List.length_replicate, List.drop_append, List.length_replicate, hstart, List.map_append,
    List.sum_append]
  simp

/-- Empty spans that come first add nothing to what has to fit. -/
theorem Fits.replicate_append (h : Fits Span.nanos capacity xs) (k : Nat) :
    Fits Span.nanos capacity (List.replicate k Span.zero ++ xs) := by
  intro ys hys
  rw [List.prefix_iff_eq_take.mp hys, List.take_append, List.take_replicate,
    total_pushAll_replicate_append]
  exact h _ (List.take_prefix _ _)

/-- If the spans that count are summed exactly, the others might as well have been empty. -/
theorem Fits.exists_pushAll_eq (h : Fits Span.nanos capacity (xs.rtake (2 * max capacity 1 - 1))) :
    ∃ ys, Fits Span.nanos capacity ys ∧
      ((empty capacity).pushAll ys).1 = ((empty capacity).pushAll xs).1 := by
  rcases Nat.lt_or_ge xs.length (2 * max capacity 1 - 1) with hshort | hlong
  · rw [rtake_of_length_le hshort.le] at h
    exact ⟨xs, h, rfl⟩
  · have hlength : (xs.rtake (2 * max capacity 1 - 1)).length = 2 * max capacity 1 - 1 := by
      rw [length_rtake]
      omega
    refine ⟨_, h.replicate_append (xs.length - (2 * max capacity 1 - 1)),
      pushAll_eq_of_rtake_eq capacity ?_ ?_⟩
    · rw [List.length_append, List.length_replicate, hlength]
      omega
    · rw [rtake_append_of_le hlength.ge, rtake_of_length_le hlength.le]

theorem samples_pushAll_ne_nil (capacity : Nat) (hne : xs ≠ []) :
    ((empty capacity).pushAll xs).1.samples ≠ [] := by
  have hlength := List.length_pos_iff.mpr hne
  rw [samples_pushAll, ← List.length_pos_iff, length_rtake]
  omega

theorem meanWithin_of_fits_rtake (hne : xs ≠ []) (hpos : ∀ x ∈ xs, 0 < x.nanos)
    (h : Fits Span.nanos capacity (xs.rtake (2 * max capacity 1 - 1))) :
    ((empty capacity).pushAll xs).1.MeanWithin Span.nanos := by
  obtain ⟨ys, hys, hsame⟩ := h.exists_pushAll_eq
  have hsum := hys.sums_pushAll counts_span
  have htotal := hys ys (List.prefix_refl ys)
  rw [hsame] at hsum htotal
  refine hsum.meanWithin (samples_pushAll_ne_nil capacity hne) ?_ htotal
  rw [samples_pushAll]
  exact fun x hx => hpos x (List.mem_of_mem_drop hx)

/-! ## A single place -/

theorem exists_hasNormal_toFloat {x : Span} (hx : SampleInput.checkSpan x = .ok x) :
    ∃ m e, Binary64.HasNormal m e x.toFloat := by
  obtain ⟨_, hpos, hle⟩ := SampleInput.checkSpan_eq_ok_iff.mp hx
  exact Binary64.exists_hasNormal hpos (by omega)

/-- A window with a single place is left with the last span and its number. -/
theorem pushAll_single (hone : capacity ≤ 1) (before : List Span) {x : Span}
    (hx : SampleInput.checkSpan x = .ok x) :
    ((empty capacity).pushAll (before ++ [x])).1.samples = [x] ∧
      ((empty capacity).pushAll (before ++ [x])).1.runningSum = x.toFloat := by
  have hcapacity : max capacity 1 = 1 := by omega
  obtain ⟨m, e, hnormal⟩ := exists_hasNormal_toFloat hx
  constructor
  · rw [samples_pushAll, hcapacity, List.rtake_concat_succ, List.rtake_zero, List.nil_append]
  · rw [pushAll_concat]
    rcases before.eq_nil_or_concat' with rfl | ⟨earlier, y, rfl⟩
    · change ((empty capacity).push x).1.runningSum = x.toFloat
      rw [fst_push_empty]
      change 0.0 + WindowSample.toFloat x = _
      rw [WindowSample.toFloat_span]
      exact hnormal.zero_add rfl
    · have hretains := retains_pushAll capacity (earlier ++ [y])
      have hsamples : (earlier ++ [y] ++ [x]).rtake (max capacity 1) = [x] := by
        rw [hcapacity, List.rtake_concat_succ, List.rtake_zero, List.nil_append]
      rw [hretains.push_of_dvd (by simp [hcapacity]) x (by simp [hcapacity]), hsamples]
      change -0.0 + WindowSample.toFloat x = _
      rw [WindowSample.toFloat_span]
      exact hnormal.zero_add rfl

theorem meanWithin_of_single (hone : capacity ≤ 1) (hne : xs ≠ [])
    (h : ∀ x ∈ xs, SampleInput.checkSpan x = .ok x) :
    ((empty capacity).pushAll xs).1.MeanWithin Span.roundedNanos := by
  obtain ⟨before, x, rfl⟩ := (xs.eq_nil_or_concat').resolve_left hne
  have hx := h x (by simp)
  obtain ⟨m, e, hnormal⟩ := exists_hasNormal_toFloat hx
  obtain ⟨hsamples, hsum⟩ := pushAll_single hone before hx
  have hmean : ((empty capacity).pushAll (before ++ [x])).1.meanSpan? =
      .ok (.ofNanos x.roundedNanos) := by
    rw [meanSpan?, mean?, isEmpty, length, hsamples, hsum]
    change Except.ok (Span.ofNanos (Binary64.toWhole (x.toFloat / Float.ofNat 1))) = _
    rw [hnormal.div_one]
    rfl
  have hnanos : (Span.ofNanos x.roundedNanos).nanos = x.roundedNanos := nanos_of_toWhole _
  refine ⟨_, x, x, hmean, ?_, ?_, ?_, hnanos.ge, hnanos.le⟩
  · simp [hsamples]
  · simp [hsamples]
  · simp [hsamples, Span.le_iff]

/-! ## More places -/

theorem evictions_of_length_le (h : xs.length ≤ max capacity 1) :
    ((empty capacity).pushAll xs).1.evictionsSinceResum = 0 := by
  have hretains := retains_pushAll capacity xs
  have hgone := hretains.gone_eq
  rw [List.rdrop_eq_reverse_drop_reverse, List.drop_of_length_le (by simpa using h)] at hgone
  rw [hretains.evictions_eq, hgone]
  exact Nat.zero_mod _

/-- While there is room, the sum only grows. -/
theorem runningSum_concat_of_room (hroom : xs.length < max capacity 1) (x : Span) :
    ((empty capacity).pushAll (xs ++ [x])).1.runningSum =
      ((empty capacity).pushAll xs).1.runningSum + x.toFloat := by
  have hretains := retains_pushAll capacity xs
  have hevictions := evictions_of_length_le hroom.le
  rw [pushAll_concat]
  generalize (empty capacity).pushAll xs = p at *
  have hfull : p.1.isFull = false := by
    rw [← Bool.not_eq_true, hretains.isFull_iff]
    omega
  have hkept : (p.1.append x).resum = p.1.append x := by
    refine resum_of_lt ?_
    change p.1.evictionsSinceResum < p.1.capacity
    rw [hevictions]
    exact p.1.capacity_pos
  rw [push_of_room hfull, hkept, ← WindowSample.toFloat_span]
  rfl

/-- The first eviction completes no turn if there is more than one place, so that the sum goes on
from what it was. -/
theorem runningSum_concat_of_full {y : Span} (hfull : (y :: xs).length = capacity)
    (hmany : 2 ≤ capacity) (x : Span) :
    ((empty capacity).pushAll (y :: xs ++ [x])).1.runningSum =
      ((empty capacity).pushAll (y :: xs)).1.runningSum - y.toFloat + x.toFloat := by
  have hmax : max capacity 1 = capacity := by omega
  have hlength : (y :: xs).length = max capacity 1 := hfull.trans hmax.symm
  have hretains := retains_pushAll capacity (y :: xs)
  have hevictions := evictions_of_length_le hlength.le
  rw [pushAll_concat]
  generalize (empty capacity).pushAll (y :: xs) = p at *
  have hsamples := hretains.samples_eq
  rw [rtake_of_length_le hlength.le] at hsamples
  obtain ⟨z, rest, hcons, hpush⟩ := exists_push_of_full (hretains.isFull_iff.mpr hlength.ge) x
  obtain ⟨rfl, _⟩ := List.cons.inj (hsamples.symm.trans hcons)
  have hkept : ((p.1.withoutOldest y rest).append x).resum =
      (p.1.withoutOldest y rest).append x := by
    refine resum_of_lt ?_
    change p.1.evictionsSinceResum + 1 < p.1.capacity
    rw [hevictions, hretains.capacity_eq]
    omega
  rw [hpush, hkept, ← WindowSample.toFloat_span, ← WindowSample.toFloat_span]
  rfl

/-- A span of `2 ^ 63` nanoseconds, and `k` spans of a microsecond after it. -/
def absorbed (k : Nat) : List Span := .ofNanos (2 ^ 63) :: List.replicate k (.ofNanos 1000)

theorem absorbed_succ (k : Nat) : absorbed (k + 1) = absorbed k ++ [.ofNanos 1000] := by
  rw [absorbed, List.replicate_succ']
  rfl

theorem length_absorbed (k : Nat) : (absorbed k).length = k + 1 := by
  rw [absorbed, List.length_cons, List.length_replicate]

/-- While the long span is there, the short ones leave no trace in the sum. -/
theorem runningSum_absorbed (k : Nat) (hk : k < capacity) :
    ((empty capacity).pushAll (absorbed k)).1.runningSum = (Span.ofNanos (2 ^ 63)).toFloat := by
  induction k with
  | zero =>
    change ((empty capacity).pushAll ([] ++ [Span.ofNanos (2 ^ 63)])).1.runningSum = _
    rw [runningSum_concat_of_room (by simp)]
    change 0.0 + (Span.ofNanos (2 ^ 63)).toFloat = _
    decide +kernel
  | succ k ih =>
    have hroom : (absorbed k).length < max capacity 1 := by
      rw [length_absorbed]
      omega
    rw [absorbed_succ, runningSum_concat_of_room hroom, ih (by omega)]
    decide +kernel

/-- When the long span leaves, the last short one is all that the sum holds. -/
theorem pushAll_absorbed (h : 2 ≤ capacity) :
    ((empty capacity).pushAll (absorbed capacity)).1.samples =
        List.replicate capacity (.ofNanos 1000) ∧
      ((empty capacity).pushAll (absorbed capacity)).1.runningSum = Float.ofNat 1000 := by
  constructor
  · have hstart : capacity + 1 - max capacity 1 = 1 := by omega
    rw [samples_pushAll, List.rtake, length_absorbed, hstart]
    rfl
  · obtain ⟨k, rfl⟩ : ∃ k, capacity = k + 1 := ⟨capacity - 1, by omega⟩
    have hsum := runningSum_absorbed k (Nat.lt_succ_self k)
    rw [absorbed_succ, absorbed, runningSum_concat_of_full (length_absorbed k) h, ← absorbed, hsum]
    decide +kernel

theorem toWhole_share_le (h : 2 ≤ capacity) (hcapacity : capacity < 2 ^ 64) :
    Binary64.toWhole (Float.ofNat 1000 / Float.ofNat capacity) ≤ 500 := by
  rcases Nat.lt_or_ge (2 ^ 53) capacity with hlarge | hsmall
  · exact (Binary64.toWhole_div_le_two (by decide) (by decide) hlarge hcapacity).trans (by decide)
  · exact (Binary64.toWhole_div_ofNat (by decide) (by decide) (by omega) hsmall 500).2 (by omega)

theorem not_meanWithin_absorbed (h : 2 ≤ capacity) (hcapacity : capacity < 2 ^ 64) :
    ¬ ((empty capacity).pushAll (absorbed capacity)).1.MeanWithin Span.roundedNanos := by
  obtain ⟨hsamples, hsum⟩ := pushAll_absorbed h
  have hne : absorbed capacity ≠ [] := List.cons_ne_nil _ _
  rintro ⟨mean, lo, hi, hmean, hlo, _, _, hle, _⟩
  have hshort : lo.roundedNanos = 1000 := by
    rw [hsamples] at hlo
    rw [List.eq_of_mem_replicate hlo]
    decide +kernel
  have hhalf : mean.nanos ≤ 500 := by
    rw [meanSpan?, mean?, isEmpty,
      List.isEmpty_eq_false_iff.mpr (samples_pushAll_ne_nil capacity hne), hsum, length, hsamples,
      List.length_replicate] at hmean
    obtain rfl := Except.ok.inj hmean
    rw [nanos_of_toWhole]
    exact toWhole_share_le h hcapacity
  omega

/-- In a window of any number of places, the mean lies between the least and the greatest retained
span if the sums of the last `2 * n - 1` spans are exact, whatever was pushed before. Without a
condition on the sums it does so, up to the rounding of spans, if there is a single place, and in no
larger window. -/
theorem meanWithin_pushAll (capacity : Nat) :
    (∀ xs : List Span, xs ≠ [] → (∀ x ∈ xs, SampleInput.checkSpan x = .ok x) →
      Fits Span.nanos capacity (xs.rtake (2 * max capacity 1 - 1)) →
      ((empty capacity).pushAll xs).1.MeanWithin Span.nanos) ∧
    (capacity < 2 ^ 64 →
      ((∀ xs : List Span, xs ≠ [] → (∀ x ∈ xs, SampleInput.checkSpan x = .ok x) →
        ((empty capacity).pushAll xs).1.MeanWithin Span.roundedNanos) ↔ capacity ≤ 1)) := by
  refine ⟨fun xs hne haccepted h => ?_, fun hcapacity => ⟨fun hall => ?_, fun hone xs hne h => ?_⟩⟩
  · exact meanWithin_of_fits_rtake hne
      (fun x hx => (SampleInput.checkSpan_eq_ok_iff.mp (haccepted x hx)).2.1) h
  · by_contra hlarge
    refine not_meanWithin_absorbed (by omega) hcapacity (hall _ (List.cons_ne_nil _ _) ?_)
    intro x hx
    rcases List.mem_cons.mp hx with rfl | hx
    · rfl
    · rw [List.eq_of_mem_replicate hx]
      rfl
  · exact meanWithin_of_single hone hne h

/-- A long span that does no harm any more, and one that does none in a window with a single
place. -/
theorem meanWithin_pushAll_outlier :
    (∀ x ∈ [.ofNanos (2 ^ 63), .ofNanos 1000, .ofNanos 2000, .ofNanos 5000],
        SampleInput.checkSpan x = .ok x) ∧
      Fits Span.nanos 2 ([Span.ofNanos (2 ^ 63), .ofNanos 1000, .ofNanos 2000,
        .ofNanos 5000].rtake (2 * max 2 1 - 1)) ∧
      ((empty 2).pushAll [Span.ofNanos (2 ^ 63), .ofNanos 1000, .ofNanos 2000,
        .ofNanos 5000]).1.MeanWithin Span.nanos ∧
      ((empty 1).pushAll [Span.ofNanos (2 ^ 63), .ofNanos 1000]).1.MeanWithin
        Span.roundedNanos := by
  have haccepted : ∀ x ∈ [.ofNanos (2 ^ 63), .ofNanos 1000, .ofNanos 2000, .ofNanos 5000],
      SampleInput.checkSpan x = .ok x := by
    simp only [List.forall_mem_cons]
    exact ⟨rfl, rfl, rfl, rfl, List.forall_mem_nil _⟩
  have hfits : Fits Span.nanos 2 ([Span.ofNanos (2 ^ 63), .ofNanos 1000, .ofNanos 2000,
      .ofNanos 5000].rtake (2 * max 2 1 - 1)) := by
    intro ys hys
    rw [← List.mem_inits] at hys
    revert ys
    decide
  refine ⟨haccepted, hfits, (meanWithin_pushAll 2).1 _ (List.cons_ne_nil _ _) haccepted hfits,
    ((meanWithin_pushAll 1).2 (by decide)).mpr (Nat.le_refl 1) _ (List.cons_ne_nil _ _) ?_⟩
  simp only [List.forall_mem_cons]
  exact ⟨rfl, rfl, List.forall_mem_nil _⟩

/-- Two retained spans of a microsecond, and a mean of half of it. -/
theorem not_meanWithin_two :
    (∀ x ∈ [.ofNanos (2 ^ 63), .ofNanos 1000, .ofNanos 1000],
        SampleInput.checkSpan x = .ok x) ∧
      (let w := ((empty 2).pushAll
        [Span.ofNanos (2 ^ 63), .ofNanos 1000, .ofNanos 1000]).1
       w.samples = [.ofNanos 1000, .ofNanos 1000] ∧ w.meanSpan? = .ok (.ofNanos 500) ∧
        (Span.ofNanos 1000).roundedNanos = 1000 ∧ ¬ w.MeanWithin Span.roundedNanos) := by
  refine ⟨?_, rfl, ?_, by decide +kernel, not_meanWithin_absorbed (by decide) (by decide)⟩
  · simp only [List.forall_mem_cons]
    exact ⟨rfl, rfl, rfl, List.forall_mem_nil _⟩
  · have hmean : Binary64.toWhole (((empty 2).pushAll
        [Span.ofNanos (2 ^ 63), .ofNanos 1000, .ofNanos 1000]).1.runningSum / Float.ofNat 2) =
          500 := by decide +kernel
    exact congrArg (fun n => Except.ok (Span.ofNanos n)) hmean

end SlidingWindow
end AdaptiveShaper
