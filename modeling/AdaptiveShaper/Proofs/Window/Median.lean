import AdaptiveShaper.Window.Basic
import Mathlib.Data.List.Basic

/-!
# Medians are order statistics

A selection puts one number where it belongs in ascending order and leaves open how the others stand
on either side of it. Numbers are told apart by all their bits, so that there is only one ascending
order, and the median depends on no choice.
-/

namespace AdaptiveShaper

open Binary64 (Word)

variable {xs ys : List Word}

/-! ## Ascending order -/

def Ascending (xs : List Word) : Prop := xs.Pairwise fun x y => x ≤ y

theorem sorted_perm (xs : List Word) : (sorted xs).Perm xs := List.mergeSort_perm _ _

theorem ascending_sorted (xs : List Word) : Ascending (sorted xs) := by
  refine (List.pairwise_mergeSort ?_ ?_ xs).imp fun h => of_decide_eq_true h
  · intro x y z hxy hyz
    exact decide_eq_true (Std.le_trans (of_decide_eq_true hxy) (of_decide_eq_true hyz))
  · intro x y
    rw [Bool.or_eq_true, decide_eq_true_iff, decide_eq_true_iff]
    exact Std.le_total

theorem exists_ascending (xs : List Word) : ∃ ys, ys.Perm xs ∧ Ascending ys :=
  ⟨sorted xs, sorted_perm xs, ascending_sorted xs⟩

theorem Ascending.eq_of_perm (hxs : Ascending xs) (hys : Ascending ys) (h : xs.Perm ys) :
    xs = ys :=
  h.eq_of_pairwise (fun _ _ _ _ => Std.le_antisymm) hxs hys

theorem Ascending.max?_eq (hys : Ascending ys) (h : ys.Perm xs) : xs.max? = ys.getLast? := by
  rcases ys.eq_nil_or_concat' with rfl | ⟨before, last, rfl⟩
  · rw [h.symm.eq_nil]
    rfl
  · rw [List.getLast?_concat, List.max?_eq_some_iff]
    have hmem : last ∈ xs := h.mem_iff.mp (by simp)
    refine ⟨hmem, fun x hx => ?_⟩
    rcases List.mem_append.mp (h.mem_iff.mpr hx) with hbefore | hlast
    · exact (List.pairwise_append.mp hys).2.2 x hbefore last (List.mem_singleton_self last)
    · exact Std.le_of_eq (List.mem_singleton.mp hlast)

/-- The median of numbers in ascending order. -/
def middle (xs : List Word) : Word :=
  if xs.length % 2 = 1 then xs.getD (xs.length / 2) (.ofFloat 0.0)
  else
    let lower := xs.getD (xs.length / 2 - 1) (.ofFloat 0.0)
    let upper := xs.getD (xs.length / 2) (.ofFloat 0.0)
    .ofFloat ((lower.toFloat + upper.toFloat) / 2.0)

/-- Whether `x` is the median of the numbers `xs`, at least one, in whatever order they are. -/
structure IsMedian (x : Word) (xs : List Word) : Prop where
  ne_nil : xs ≠ []
  eq_middle : ∃ ys, ys.Perm xs ∧ Ascending ys ∧ x = middle ys

/-! ## Selections -/

namespace Selection.IsOf

variable {s : Selection} {rank : Nat}

/-- In ascending order the same numbers stand on either side of the one selected. -/
theorem exists_append (h : s.IsOf rank xs) (hys : Ascending ys) (hperm : ys.Perm xs) :
    ∃ lows highs, lows.Perm s.below ∧ Ascending lows ∧ ys = lows ++ s.pivot :: highs := by
  obtain ⟨lows, hlows, hlowsAscending⟩ := exists_ascending s.below
  obtain ⟨highs, hhighs, hhighsAscending⟩ := exists_ascending s.above
  refine ⟨lows, highs, hlows, hlowsAscending, ?_⟩
  refine hys.eq_of_perm ?_ (hperm.trans (h.perm.symm.trans ?_))
  · have hpivot : ∀ x ∈ highs, s.pivot ≤ x := fun x hx => h.le_above x (hhighs.mem_iff.mp hx)
    refine List.pairwise_append.mpr ⟨hlowsAscending, hhighsAscending.cons hpivot, ?_⟩
    intro x hx y hy
    have hle := h.below_le x (hlows.mem_iff.mp hx)
    rcases List.mem_cons.mp hy with rfl | hy
    · exact hle
    · exact Std.le_trans hle (hpivot y hy)
  · exact hlows.symm.append (hhighs.symm.cons s.pivot)

theorem getElem?_rank (h : s.IsOf rank xs) (hys : Ascending ys) (hperm : ys.Perm xs) :
    ys[rank]? = some s.pivot := by
  obtain ⟨lows, highs, hlows, _, rfl⟩ := h.exists_append hys hperm
  rw [← h.rank_eq, ← hlows.length_eq, List.getElem?_append_right (Nat.le_refl _), Nat.sub_self]
  rfl

theorem getElem?_rank_sub_one (h : s.IsOf rank xs) (hys : Ascending ys) (hperm : ys.Perm xs)
    (hpos : 0 < rank) : ys[rank - 1]? = s.below.max? := by
  obtain ⟨lows, highs, hlows, hascending, rfl⟩ := h.exists_append hys hperm
  have hlength : lows.length = rank := hlows.length_eq.trans h.rank_eq
  rw [hascending.max?_eq hlows, List.getElem?_append_left (by omega), ← hlength,
    List.getLast?_eq_getElem?]

theorem median_eq_middle (h : s.IsOf (xs.length / 2) xs) (hys : Ascending ys)
    (hperm : ys.Perm xs) : s.median = middle ys := by
  have hlength : s.toList.length = ys.length := h.perm.length_eq.trans hperm.length_eq.symm
  have hpivot := h.getElem?_rank hys hperm
  have hlower := h.getElem?_rank_sub_one hys hperm
  rw [← hperm.length_eq] at hpivot hlower
  simp only [median, middle, hlength, List.getD_eq_getElem?_getD, hpivot]
  split
  · rfl
  · next hodd =>
    have hlt : ys.length / 2 < ys.length := (List.getElem?_eq_some_iff.mp hpivot).1
    have hpos : 0 < ys.length / 2 := by omega
    have hsome : s.below.max? = some ys[ys.length / 2 - 1] := by
      rw [← hlower hpos, List.getElem?_eq_getElem]
    rw [hlower hpos, hsome]
    rfl

end Selection.IsOf

theorem isOf_of_select? {rank : Nat} {s : Selection} (h : select? rank xs = some s) :
    s.IsOf rank xs := by
  unfold select? at h
  simp only at h
  split at h
  · cases h
  · next pivot above hdrop =>
    obtain rfl := Option.some.inj h
    have hlist : (sorted xs).take rank ++ pivot :: above = sorted xs := by
      rw [← hdrop, List.take_append_drop]
    have hascending := ascending_sorted xs
    rw [← hlist] at hascending
    obtain ⟨_, habove, hbelow⟩ := List.pairwise_append.mp hascending
    refine ⟨?_, ?_, ?_, ?_⟩
    · rw [Selection.toList, hlist]
      exact sorted_perm xs
    · have hlt : rank < (sorted xs).length := by
        have hdropped := congrArg List.length hdrop
        rw [List.length_drop, List.length_cons] at hdropped
        omega
      exact List.length_take_of_le (Nat.le_of_lt hlt)
    · exact fun x hx => hbelow x hx pivot List.mem_cons_self
    · exact (List.pairwise_cons.mp habove).1

theorem exists_select? {rank : Nat} (h : rank < xs.length) : ∃ s, select? rank xs = some s := by
  have hlength : (sorted xs).length = xs.length := (sorted_perm xs).length_eq
  unfold select?
  simp only
  split
  · next hdrop =>
    have hle := List.drop_eq_nil_iff.mp hdrop
    omega
  · exact ⟨_, rfl⟩

theorem exists_isOf (h : xs ≠ []) : ∃ s, select? (xs.length / 2) xs = some s ∧
    s.IsOf (xs.length / 2) xs := by
  have hlt : xs.length / 2 < xs.length := Nat.div_lt_self (List.length_pos_iff.mpr h) (by decide)
  obtain ⟨s, hs⟩ := exists_select? hlt
  exact ⟨s, hs, isOf_of_select? hs⟩

theorem median?_eq_middle (h : xs ≠ []) (hys : Ascending ys) (hperm : ys.Perm xs) :
    median? xs = some (middle ys) := by
  obtain ⟨s, hs, hof⟩ := exists_isOf h
  rw [median?, hs, Option.map_some, hof.median_eq_middle hys hperm]

/-! ## Windows -/

namespace SlidingWindow

variable {α : Type} [WindowSample α] {w : SlidingWindow α}

theorem words_eq_nil_iff : w.words = [] ↔ w.samples = [] := List.map_eq_nil_iff

theorem length_words (w : SlidingWindow α) : w.words.length = w.length := List.length_map _

theorem median?_eq_ok (h : w.samples ≠ []) (hys : Ascending ys) (hperm : ys.Perm w.words) :
    w.median? = .ok (middle ys) := by
  rw [median?, median?_eq_middle (words_eq_nil_iff.not.mpr h) hys hperm]

theorem isMedian_median (h : w.samples ≠ []) : IsMedian w.median w.words := by
  refine ⟨words_eq_nil_iff.not.mpr h, sorted w.words, sorted_perm _, ascending_sorted _, ?_⟩
  rw [median, median?_eq_ok h (ascending_sorted _) (sorted_perm _)]
  rfl

/-- Whatever the samples of a window stand for, both zeros, infinities and NaN of either sign and
any payload included, its median is the middle of their numbers in ascending order. Every selection
around the middle rank leads to it, and so does every window that retains the same samples in
another order. -/
theorem orderStatistic_median (h : w.samples ≠ []) :
    ∃ ys, ys.Perm w.words ∧ Ascending ys ∧ w.median? = .ok (middle ys) ∧ w.median = middle ys ∧
      (∃ s : Selection, s.IsOf (w.length / 2) w.words) ∧
      (∀ s : Selection, s.IsOf (w.length / 2) w.words → s.median = middle ys) ∧
      ∀ v : SlidingWindow α, v.samples.Perm w.samples → v.median? = w.median? := by
  have hascending := ascending_sorted w.words
  have hperm := sorted_perm w.words
  have hmedian := median?_eq_ok h hascending hperm
  obtain ⟨s, _, hs⟩ := exists_isOf (words_eq_nil_iff.not.mpr h)
  rw [← length_words]
  refine ⟨sorted w.words, hperm, hascending, hmedian, ?_, ⟨s, hs⟩, ?_, ?_⟩
  · rw [median, hmedian]
    rfl
  · exact fun s hs => hs.median_eq_middle hascending hperm
  · intro v hv
    have hne : v.samples ≠ [] := fun hnil => h (hnil ▸ hv).nil_eq.symm
    rw [hmedian]
    exact median?_eq_ok hne hascending (hperm.trans (hv.map _).symm)

/-- NaN with its sign bit set is the least of four numbers, and a selection leaves the two below in
disorder. -/
theorem orderStatistic_median_nan :
    ((empty 4).pushAll [⟨0xfff8_0000_0000_0001⟩, .ofFloat 3.0, .ofFloat 2.0,
        (.ofFloat 1.0 : Word)]).1.samples ≠ [] ∧
      Selection.IsOf ⟨[.ofFloat 1.0, ⟨0xfff8_0000_0000_0001⟩], .ofFloat 2.0, [.ofFloat 3.0]⟩ 2
        ((empty 4).pushAll [⟨0xfff8_0000_0000_0001⟩, .ofFloat 3.0, .ofFloat 2.0,
          (.ofFloat 1.0 : Word)]).1.words ∧
      ((empty 4).pushAll [⟨0xfff8_0000_0000_0001⟩, .ofFloat 3.0, .ofFloat 2.0,
        (.ofFloat 1.0 : Word)]).1.median? = .ok (.ofFloat 1.5) := by
  have hne : ((empty 4).pushAll [⟨0xfff8_0000_0000_0001⟩, .ofFloat 3.0, .ofFloat 2.0,
      (.ofFloat 1.0 : Word)]).1.samples ≠ [] := by decide +kernel
  have hs : Selection.IsOf ⟨[.ofFloat 1.0, ⟨0xfff8_0000_0000_0001⟩], .ofFloat 2.0,
      [.ofFloat 3.0]⟩ 2 ((empty 4).pushAll [⟨0xfff8_0000_0000_0001⟩, .ofFloat 3.0, .ofFloat 2.0,
        (.ofFloat 1.0 : Word)]).1.words :=
    ⟨by decide +kernel, rfl, by decide +kernel, by decide +kernel⟩
  have hhalf : Selection.median ⟨[.ofFloat 1.0, ⟨0xfff8_0000_0000_0001⟩], .ofFloat 2.0,
      [.ofFloat 3.0]⟩ = .ofFloat 1.5 := by decide +kernel
  obtain ⟨ys, _, _, hmedian, _, _, hselections, _⟩ := orderStatistic_median hne
  refine ⟨hne, hs, ?_⟩
  rw [hmedian, ← hselections _ hs, hhalf]

end SlidingWindow

end AdaptiveShaper
