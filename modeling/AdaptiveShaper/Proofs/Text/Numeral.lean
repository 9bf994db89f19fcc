import AdaptiveShaper.Text.Basic

/-!
# The grammar of numerals

A numeral is a row of ASCII digits, with an optional sign in front where whole numbers of either
sign are meant. The readers accept exactly that, and what is written for a number is a numeral of
it.
-/

namespace AdaptiveShaper
namespace Text

/-! ## Digits -/

/-- One or more digits that stand for `n`; there may be zeros in front. -/
structure IsDigits (s : List Char) (n : Nat) : Prop where
  ne_nil : s ≠ []
  isDigit : ∀ c ∈ s, c.isDigit = true
  value_eq : Nat.ofDigitChars 10 s 0 = n

theorem digits?_eq_some_iff {s : List Char} {n : Nat} : digits? s = some n ↔ IsDigits s n := by
  have hvalue : digitsValue 0 s = Nat.ofDigitChars 10 s 0 := Nat.ofDigitChars_eq_foldl.symm
  unfold digits?
  rw [hvalue]
  constructor
  · intro h
    split at h
    · cases h
    · next hdigits =>
      simp only [Bool.or_eq_true, not_or, Bool.not_eq_true, List.isEmpty_eq_false_iff,
        Bool.not_eq_false', List.all_eq_true] at hdigits
      exact ⟨hdigits.1, hdigits.2, Option.some.inj h⟩
  · rintro ⟨hne, hdigits, rfl⟩
    simp [hne, List.all_eq_true.mpr hdigits]

theorem isDigits_toDigits (n : Nat) : IsDigits (Nat.toDigits 10 n) n where
  ne_nil := Nat.toDigits_ne_nil
  isDigit _ hc := Nat.isDigit_of_mem_toDigits (by decide) (by decide) hc
  value_eq := Nat.ofDigitChars_ten_toDigits

theorem digits?_toDigits (n : Nat) : digits? (Nat.toDigits 10 n) = some n :=
  digits?_eq_some_iff.mpr (isDigits_toDigits n)

/-! ## Whole numbers -/

/-- An optional sign and digits, which together stand for a whole number. -/
inductive IsInteger : List Char → Int → Prop where
  | unsigned {s : List Char} {n : Nat} (h : IsDigits s n) : IsInteger s n
  | plus {s : List Char} {n : Nat} (h : IsDigits s n) : IsInteger ('+' :: s) n
  | minus {s : List Char} {n : Nat} (h : IsDigits s n) : IsInteger ('-' :: s) (-n)

/-- Digits start with no sign, so that they are read as they are. -/
theorem integer?_of_isDigits {s : List Char} {n : Nat} (h : IsDigits s n) :
    integer? s = some (n : Int) := by
  have hread := digits?_eq_some_iff.mpr h
  cases s with
  | nil => exact absurd rfl h.ne_nil
  | cons c s =>
    have hdigit := h.isDigit c List.mem_cons_self
    have hminus : c ≠ '-' := by
      rintro rfl
      cases hdigit
    have hplus : c ≠ '+' := by
      rintro rfl
      cases hdigit
    unfold integer? natural?
    split
    · next heq => exact absurd (List.cons.inj heq).1 hminus
    · split
      · next heq => exact absurd (List.cons.inj heq).1 hplus
      · rw [hread]
        rfl

theorem integer?_eq_some_iff {s : List Char} {v : Int} : integer? s = some v ↔ IsInteger s v := by
  constructor
  · intro h
    unfold integer? natural? at h
    split at h
    · obtain ⟨w, hw, rfl⟩ := Option.map_eq_some_iff.mp h
      obtain ⟨n, hn, hsome⟩ := Option.bind_eq_some_iff.mp hw
      cases hsome
      exact .minus (digits?_eq_some_iff.mp hn)
    · obtain ⟨w, hw, rfl⟩ := Option.map_eq_some_iff.mp h
      obtain ⟨n, hn, hsome⟩ := Option.bind_eq_some_iff.mp hw
      cases hsome
      split at hn
      · exact .plus (digits?_eq_some_iff.mp hn)
      · exact .unsigned (digits?_eq_some_iff.mp hn)
  · intro h
    cases h with
    | unsigned h => exact integer?_of_isDigits h
    | plus h => simp [integer?, natural?, digits?_eq_some_iff.mpr h]
    | minus h => simp [integer?, digits?_eq_some_iff.mpr h]

theorem IsInteger.unique {s : List Char} {v w : Int} (hv : IsInteger s v) (hw : IsInteger s w) :
    v = w :=
  Option.some.inj ((integer?_eq_some_iff.mpr hv).symm.trans (integer?_eq_some_iff.mpr hw))

theorem isInteger_toString (v : Int) : IsInteger (toString v).toList v := by
  rw [Int.toString_eq_repr, Int.repr_eq_if]
  split
  · next h =>
    obtain ⟨n, rfl⟩ := Int.eq_ofNat_of_zero_le h
    rw [Nat.toList_repr]
    exact .unsigned (isDigits_toDigits n)
  · next h =>
    obtain ⟨n, hn⟩ := Int.eq_ofNat_of_zero_le (show 0 ≤ -v by omega)
    obtain rfl : v = -n := by omega
    rw [String.toList_append, Int.neg_neg, Int.toNat_natCast, Nat.toList_repr]
    exact .minus (isDigits_toDigits n)

/-! ## Blanks -/

theorem isBlank_of_isDigit {c : Char} (h : c.isDigit = true) : isBlank c = false := by
  obtain ⟨hlo, hhi⟩ := Char.isDigit_iff_toNat.mp h
  change 48 ≤ c.toNat at hlo
  change c.toNat ≤ 57 at hhi
  simp only [isBlank, Bool.or_eq_false_iff, Bool.and_eq_false_iff, decide_eq_false_iff_not,
    beq_eq_false_iff_ne]
  omega

theorem IsDigits.concat {s : List Char} {n : Nat} (h : IsDigits s n) :
    ∃ s' c, s = s' ++ [c] ∧ c.isDigit = true := by
  have hsplit := List.dropLast_concat_getLast h.ne_nil
  exact ⟨_, _, hsplit.symm, h.isDigit _ (List.getLast_mem h.ne_nil)⟩

/-- Whatever stands in front, a numeral ends with a digit. -/
theorem IsInteger.concat {s : List Char} {v : Int} (h : IsInteger s v) :
    ∃ s' c, s = s' ++ [c] ∧ c.isDigit = true := by
  cases h with
  | unsigned h => exact h.concat
  | plus h =>
    obtain ⟨s', c, rfl, hc⟩ := h.concat
    exact ⟨'+' :: s', c, rfl, hc⟩
  | minus h =>
    obtain ⟨s', c, rfl, hc⟩ := h.concat
    exact ⟨'-' :: s', c, rfl, hc⟩

theorem IsInteger.isBlank_of_mem {s : List Char} {v : Int} (h : IsInteger s v) {c : Char}
    (hc : c ∈ s) : isBlank c = false := by
  cases h with
  | unsigned h => exact isBlank_of_isDigit (h.isDigit c hc)
  | plus h =>
    rcases List.mem_cons.mp hc with rfl | hc
    · rfl
    · exact isBlank_of_isDigit (h.isDigit c hc)
  | minus h =>
    rcases List.mem_cons.mp hc with rfl | hc
    · rfl
    · exact isBlank_of_isDigit (h.isDigit c hc)

/-- Blanks around a text that neither starts nor ends with one are trimmed, and nothing else. -/
theorem trim_append {a c t : List Char} (ha : a.all isBlank = true) (hc : c.all isBlank = true)
    (hstart : ∀ x, t.head? = some x → isBlank x = false)
    (hend : ∀ x, t.getLast? = some x → isBlank x = false) : trim (a ++ t ++ c) = t := by
  have hfront : trimStart (a ++ (t ++ c)) = trimStart (t ++ c) :=
    List.dropWhile_append_of_pos (List.all_eq_true.mp ha)
  have hback : trimEnd (t ++ c) = trimEnd t := by
    have hreverse : ∀ x ∈ c.reverse, isBlank x = true := fun x hx =>
      List.all_eq_true.mp hc x (List.mem_reverse.mp hx)
    rw [trimEnd, List.reverse_append, List.dropWhile_append_of_pos hreverse]
    rfl
  have hkept : trimEnd t = t := by
    have hself : trimStart t.reverse = t.reverse :=
      trimStart_eq_self fun x hx => hend x (by rwa [List.head?_reverse] at hx)
    rw [trimEnd, ← trimStart, hself, List.reverse_reverse]
  rw [trim, List.append_assoc, hfront]
  cases t with
  | nil =>
    have hnil : trimStart (c ++ []) = [] :=
      List.dropWhile_append_of_pos (List.all_eq_true.mp hc)
    rw [List.append_nil] at hnil
    rw [List.nil_append, hnil]
    rfl
  | cons x t =>
    have hself : trimStart (x :: t ++ c) = x :: t ++ c := trimStart_eq_self hstart
    rw [hself, hback, hkept]

end Text
end AdaptiveShaper
