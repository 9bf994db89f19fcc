import AdaptiveShaper.Proofs.Text.Numeral
import AdaptiveShaper.Sample.Reading
import Mathlib.Algebra.Ring.Int.Defs
import Mathlib.Algebra.Ring.Nat
import Mathlib.Data.List.Induction

/-!
# The grammar of samples

A sample is a numeral, blanks if any, and the mark of a unit. The mark of seconds ends all other
marks, and still a text can be taken apart in one way only: no mark holds a digit or a blank.
Reading accepts the texts of this grammar whose numeral is a positive whole number of 63 bits, and
tells numbers that are not positive from texts that are no samples at all.
-/

namespace AdaptiveShaper
namespace Sample

open Text (isBlank IsInteger)

/-- How units are written. -/
inductive TimeUnit.IsMark : TimeUnit → List Char → Prop where
  | unmarked : IsMark .nanosecond []
  | nanosecond : IsMark .nanosecond ['n', 's']
  | microsecond : IsMark .microsecond ['u', 's']
  | micro : IsMark .microsecond ['µ', 's']
  | millisecond : IsMark .millisecond ['m', 's']
  | second : IsMark .second ['s']

/-- The text `t` is a numeral of `v` and a mark of `unit` with blanks between them. -/
structure Parts (t numeral mark : List Char) (v : Int) (unit : TimeUnit) : Prop where
  isInteger : IsInteger numeral v
  isMark : unit.IsMark mark
  joined : ∃ gap, gap.all isBlank = true ∧ t = numeral ++ gap ++ mark

/-- The text `t` says `v` of `unit`. -/
def Says (t : List Char) (v : Int) (unit : TimeUnit) : Prop :=
  ∃ numeral mark, Parts t numeral mark v unit

/-! ## Finding the mark -/

theorem beforeMark?_eq_some_iff {mark s rest : List Char} :
    beforeMark? mark s = some rest ↔ s = rest ++ mark := by
  unfold beforeMark?
  constructor
  · intro h
    split at h
    · next hsuffix =>
      obtain ⟨r, rfl⟩ := List.isSuffixOf_iff_suffix.mp hsuffix
      rw [List.length_append, Nat.add_sub_cancel, List.take_left] at h
      rw [Option.some.inj h]
    · cases h
  · rintro rfl
    rw [if_pos (List.isSuffixOf_iff_suffix.mpr (List.suffix_append rest mark)),
      List.length_append, Nat.add_sub_cancel, List.take_left]

theorem isMark_of_mem {mark : List Char} {unit : TimeUnit} (h : (mark, unit) ∈ unitMarks) :
    unit.IsMark mark := by
  simp only [unitMarks, List.mem_cons, Prod.mk.injEq, List.not_mem_nil, or_false] at h
  rcases h with ⟨rfl, rfl⟩ | ⟨rfl, rfl⟩ | ⟨rfl, rfl⟩ | ⟨rfl, rfl⟩ | ⟨rfl, rfl⟩
  · exact .nanosecond
  · exact .microsecond
  · exact .micro
  · exact .millisecond
  · exact .second

theorem splitUnit_sound (s : List Char) :
    ∃ mark, (splitUnit s).2.IsMark mark ∧ s = (splitUnit s).1 ++ mark := by
  unfold splitUnit
  cases hfound : unitMarks.findSome? _ with
  | none => exact ⟨[], .unmarked, (List.append_nil s).symm⟩
  | some found =>
    obtain ⟨⟨mark, unit⟩, hmem, hmark⟩ := List.exists_of_findSome?_eq_some hfound
    obtain ⟨rest, hrest, rfl⟩ := Option.map_eq_some_iff.mp hmark
    exact ⟨mark, isMark_of_mem hmem, beforeMark?_eq_some_iff.mp hrest⟩

/-- Behind a character that no mark holds, the mark that stands there is the one that is found,
although marks before it in the table may end in it and others end it. -/
theorem splitUnit_append {s mark : List Char} {c : Char} {unit : TimeUnit}
    (hc : c ∉ ['n', 'u', 'µ', 'm', 's']) (h : unit.IsMark mark) :
    splitUnit (s ++ [c] ++ mark) = (s ++ [c], unit) := by
  simp only [List.mem_cons, List.not_mem_nil, or_false, not_or] at hc
  obtain ⟨hn, hu, hmu, hm, hs⟩ := hc
  cases h <;> simp [splitUnit, unitMarks, beforeMark?, List.isSuffixOf,
    List.take_length_add_append, Ne.symm hn, Ne.symm hu, Ne.symm hmu, Ne.symm hm, Ne.symm hs]

/-! ## Taking texts apart -/

theorem not_mem_marks {c : Char} (h : c.isDigit = true ∨ isBlank c = true) :
    c ∉ ['n', 'u', 'µ', 'm', 's'] := by
  simp only [List.mem_cons, List.not_mem_nil, or_false]
  rintro (rfl | rfl | rfl | rfl | rfl) <;> rcases h with h | h <;> cases h

variable {t numeral mark : List Char} {v : Int} {unit : TimeUnit}

/-- The text in front of the mark ends with a digit, or with a blank behind it. -/
theorem splitUnit_of_isInteger (h : IsInteger numeral v) {gap : List Char}
    (hgap : gap.all isBlank = true) (hmark : unit.IsMark mark) :
    splitUnit (numeral ++ gap ++ mark) = (numeral ++ gap, unit) := by
  cases gap using List.reverseRecOn with
  | nil =>
    obtain ⟨s, c, rfl, hc⟩ := h.concat
    rw [List.append_nil]
    exact splitUnit_append (not_mem_marks (.inl hc)) hmark
  | append_singleton gap c =>
    have hc : isBlank c = true := List.all_eq_true.mp hgap c (by simp)
    rw [← List.append_assoc]
    exact splitUnit_append (not_mem_marks (.inr hc)) hmark

theorem trim_numeral (h : IsInteger numeral v) {gap : List Char}
    (hgap : gap.all isBlank = true) : Text.trim (numeral ++ gap) = numeral :=
  Text.trim_append (a := []) rfl hgap
    (fun _ hx => h.isBlank_of_mem (List.mem_of_mem_head? hx))
    (fun _ hx => h.isBlank_of_mem (List.mem_of_mem_getLast? hx))

theorem Parts.unique {numeral' mark' : List Char} {v' : Int} {unit' : TimeUnit}
    (h : Parts t numeral mark v unit) (h' : Parts t numeral' mark' v' unit') :
    numeral = numeral' ∧ mark = mark' ∧ v = v' ∧ unit = unit' := by
  obtain ⟨hinteger, hmark, gap, hgap, rfl⟩ := h
  obtain ⟨hinteger', hmark', gap', hgap', hjoined⟩ := h'
  have hsplit := splitUnit_of_isInteger hinteger hgap hmark
  rw [hjoined, splitUnit_of_isInteger hinteger' hgap' hmark'] at hsplit
  obtain ⟨hfront, rfl⟩ := Prod.mk.inj hsplit
  have hnumeral : numeral = numeral' := by
    rw [← trim_numeral hinteger hgap, ← hfront, trim_numeral hinteger' hgap']
  rw [hfront, List.append_cancel_left_eq] at hjoined
  subst hnumeral
  exact ⟨rfl, hjoined, hinteger.unique hinteger', rfl⟩

/-- A text that starts with no blank is read as what it says. -/
theorem readNumeral_eq_some_iff (hstart : ∀ c, t.head? = some c → isBlank c = false) :
    readNumeral t = some (v, unit) ↔ Says t v unit ∧ Text.inInt64 v = true := by
  constructor
  · intro h
    obtain ⟨mark, hmark, hsplit⟩ := splitUnit_sound t
    simp only [readNumeral, Option.bind_eq_bind, Option.bind_eq_some_iff] at h
    obtain ⟨w, hw, h⟩ := h
    split at h
    · next hrange =>
      cases h
      obtain ⟨a, gap, ha, hgap, hfront⟩ := Text.eq_append_trim (splitUnit t).1
      -- blanks in front of the numeral would be blanks in front of the text
      have hnil : a = [] := by
        cases a with
        | nil => rfl
        | cons c a =>
          rw [hfront] at hsplit
          have hblank := hstart c (by rw [hsplit]; rfl)
          rw [List.all_cons, hblank] at ha
          cases ha
      subst hnil
      refine ⟨⟨_, mark, Text.integer?_eq_some_iff.mp hw, hmark, gap, hgap, ?_⟩, hrange⟩
      rw [List.nil_append] at hfront
      rw [← hfront]
      exact hsplit
    · cases h
  · rintro ⟨⟨numeral, mark, hinteger, hmark, gap, hgap, rfl⟩, hrange⟩
    simp only [readNumeral, splitUnit_of_isInteger hinteger hgap hmark, trim_numeral hinteger hgap,
      Text.integer?_eq_some_iff.mpr hinteger, Option.bind_eq_bind, Option.bind_some, if_pos hrange]

/-! ## Reading samples -/

/-- The text `t` is what is left of `s` without the blanks around it. -/
structure IsCore (t s : List Char) : Prop where
  around : ∃ a c, a.all isBlank = true ∧ c.all isBlank = true ∧ s = a ++ t ++ c
  start : ∀ c, t.head? = some c → isBlank c = false
  finish : ∀ c, t.getLast? = some c → isBlank c = false

theorem isCore_trim (s : List Char) : IsCore (Text.trim s) s where
  around := Text.eq_append_trim s
  start _ h := Text.isBlank_of_head?_trim h
  finish _ h := Text.isBlank_of_getLast?_trim h

theorem IsCore.trim_eq {s : List Char} (h : IsCore t s) : Text.trim s = t := by
  obtain ⟨⟨a, c, ha, hc, rfl⟩, hstart, hfinish⟩ := h
  exact Text.trim_append ha hc hstart hfinish

theorem inInt64_iff {v : Int} : Text.inInt64 v = true ↔ -2 ^ 63 ≤ v ∧ v ≤ 2 ^ 63 - 1 := by
  simp only [Text.inInt64, Bool.and_eq_true, decide_eq_true_eq]
  omega

/-- Seconds of 63 bits are far from the end of what a span can be. -/
theorem nanos_ofNanos_mul {n : Nat} (h : n < 2 ^ 63) (unit : TimeUnit) :
    (Span.ofNanos (n * unit.nanos)).nanos = n * unit.nanos := by
  have hunit : unit.nanos ≤ 1_000_000_000 := by cases unit <;> decide
  have hproduct : n * unit.nanos ≤ 2 ^ 63 * 1_000_000_000 := Nat.mul_le_mul (Nat.le_of_lt h) hunit
  rw [Span.nanos_ofNanos, Span.maxNanos]
  omega

theorem nanos_ofNanos_of_pos (hpos : 1 ≤ v) (hle : v ≤ 2 ^ 63 - 1) :
    ((Span.ofNanos (v.toNat * unit.nanos)).nanos : Int) = v * unit.nanos := by
  rw [nanos_ofNanos_mul (by omega), Int.natCast_mul, Int.toNat_of_nonneg (by omega)]

theorem readSample_of_said {input : String} (hcore : IsCore t input.toList)
    (h : Says t v unit) (hlo : -2 ^ 63 ≤ v) (hhi : v ≤ 2 ^ 63 - 1) :
    readSample input = if v ≤ 0 then .error (.nonPositive v)
      else .ok (.ofNanos (v.toNat * unit.nanos)) := by
  have hread := (readNumeral_eq_some_iff hcore.start).mpr ⟨h, inInt64_iff.mpr ⟨hlo, hhi⟩⟩
  simp only [readSample, hcore.trim_eq, hread]

theorem readSample_of_unsaid {input : String} (hcore : IsCore t input.toList)
    (h : ∀ v unit, Says t v unit → ¬ (-2 ^ 63 ≤ v ∧ v ≤ 2 ^ 63 - 1)) :
    readSample input = .error (.malformed (String.ofList t)) := by
  have hread : readNumeral t = none := by
    rw [Option.eq_none_iff_forall_not_mem]
    rintro ⟨v, unit⟩ hsome
    obtain ⟨hsaid, hrange⟩ := (readNumeral_eq_some_iff hcore.start).mp hsome
    exact h v unit hsaid (inInt64_iff.mp hrange)
  simp only [readSample, hcore.trim_eq, hread]

/-- What the grammar asks of the outcome of reading a text without blanks around it. -/
structure Classifies (t : List Char) (outcome : Except SampleError Span) : Prop where
  /-- A positive number of a unit is that many of the unit, with nothing lost at the upper end. -/
  ok_iff : ∀ d, outcome = .ok d ↔
    ∃ v unit, Says t v unit ∧ 1 ≤ v ∧ v ≤ 2 ^ 63 - 1 ∧ (d.nanos : Int) = v * unit.nanos
  /-- A number that is not positive is told as such, whatever its unit. -/
  nonPositive_iff : ∀ v, outcome = .error (.nonPositive v) ↔
    (∃ unit, Says t v unit) ∧ -2 ^ 63 ≤ v ∧ v ≤ 0
  /-- All other texts are told as they are. -/
  malformed_iff : ∀ s, outcome = .error (.malformed s) ↔ s = String.ofList t ∧
    ∀ v unit, Says t v unit → ¬ (-2 ^ 63 ≤ v ∧ v ≤ 2 ^ 63 - 1)

theorem Says.unique (h : Says t v unit) {v' : Int} {unit' : TimeUnit} (h' : Says t v' unit') :
    v = v' ∧ unit = unit' := by
  obtain ⟨_, _, hparts⟩ := h
  obtain ⟨_, _, hparts'⟩ := h'
  obtain ⟨_, _, hv, hunit⟩ := hparts.unique hparts'
  exact ⟨hv, hunit⟩

theorem classifies_of_said (h : Says t v unit) (hlo : -2 ^ 63 ≤ v) (hhi : v ≤ 2 ^ 63 - 1) :
    Classifies t (if v ≤ 0 then .error (.nonPositive v)
      else .ok (.ofNanos (v.toNat * unit.nanos))) := by
  by_cases hv : v ≤ 0
  · rw [if_pos hv]
    refine ⟨fun d => ⟨nofun, ?_⟩, fun w => ⟨?_, ?_⟩, fun s => ⟨nofun, ?_⟩⟩
    · rintro ⟨w, unit', hsaid, hpos, _⟩
      obtain ⟨rfl, _⟩ := h.unique hsaid
      omega
    · intro heq
      cases heq
      exact ⟨⟨unit, h⟩, hlo, hv⟩
    · rintro ⟨⟨unit', hsaid⟩, _⟩
      rw [(h.unique hsaid).1]
    · rintro ⟨_, hnone⟩
      exact absurd ⟨hlo, hhi⟩ (hnone v unit h)
  · rw [if_neg hv]
    refine ⟨fun d => ⟨?_, ?_⟩, fun w => ⟨nofun, ?_⟩, fun s => ⟨nofun, ?_⟩⟩
    · intro heq
      cases heq
      exact ⟨v, unit, h, by omega, hhi, nanos_ofNanos_of_pos (by omega) hhi⟩
    · rintro ⟨w, unit', hsaid, hpos, hle, hd⟩
      obtain ⟨rfl, rfl⟩ := h.unique hsaid
      rw [← nanos_ofNanos_of_pos hpos hle] at hd
      exact congrArg Except.ok (Span.ext (Int.ofNat.inj hd.symm))
    · rintro ⟨⟨unit', hsaid⟩, _, hle⟩
      rw [← (h.unique hsaid).1] at hle
      exact absurd hle hv
    · rintro ⟨_, hnone⟩
      exact absurd ⟨hlo, hhi⟩ (hnone v unit h)

theorem classifies_of_unsaid
    (h : ∀ v unit, Says t v unit → ¬ (-2 ^ 63 ≤ v ∧ v ≤ 2 ^ 63 - 1)) :
    Classifies t (.error (.malformed (String.ofList t))) := by
  refine ⟨fun d => ⟨nofun, ?_⟩, fun w => ⟨nofun, ?_⟩, fun s => ⟨?_, ?_⟩⟩
  · rintro ⟨v, unit, hsaid, hpos, hle, _⟩
    exact absurd ⟨by omega, hle⟩ (h v unit hsaid)
  · rintro ⟨⟨unit, hsaid⟩, hlo, hle⟩
    exact absurd ⟨hlo, by omega⟩ (h w unit hsaid)
  · intro heq
    cases heq
    exact ⟨rfl, h⟩
  · rintro ⟨rfl, _⟩
    rfl

/-- Reading accepts exactly the grammar of samples. Every input has one core without blanks around
it, and there is at most one way to take the core apart into a numeral and a mark; the outcome is
the span that these mean, or tells whether the number was not positive or the core no sample. -/
theorem readSample_grammar (input : String) :
    ∃ t, (∀ s, IsCore s input.toList ↔ s = t) ∧ Classifies t (readSample input) ∧
      ∀ numeral numeral' mark mark' v v' unit unit', Parts t numeral mark v unit →
        Parts t numeral' mark' v' unit' →
        numeral = numeral' ∧ mark = mark' ∧ v = v' ∧ unit = unit' := by
  have hcore := isCore_trim input.toList
  refine ⟨Text.trim input.toList, fun s => ⟨fun h => h.trim_eq.symm, fun h => h ▸ hcore⟩, ?_,
    fun _ _ _ _ _ _ _ _ hparts hparts' => hparts.unique hparts'⟩
  by_cases h : ∃ v unit, Says (Text.trim input.toList) v unit ∧ -2 ^ 63 ≤ v ∧ v ≤ 2 ^ 63 - 1
  · obtain ⟨v, unit, hsaid, hlo, hhi⟩ := h
    rw [readSample_of_said hcore hsaid hlo hhi]
    exact classifies_of_said hsaid hlo hhi
  · have hnone : ∀ v unit, Says (Text.trim input.toList) v unit →
        ¬ (-2 ^ 63 ≤ v ∧ v ≤ 2 ^ 63 - 1) := fun v unit hsaid hrange => h ⟨v, unit, hsaid, hrange⟩
    rw [readSample_of_unsaid hcore hnone]
    exact classifies_of_unsaid hnone

/-- A sign, a zero in front, blanks on all sides and a mark that another one ends. -/
theorem readSample_grammar_micro : readSample " +042 µs\n" = .ok (.ofNanos 42_000) := by
  obtain ⟨t, hcore, hclassifies, _⟩ := readSample_grammar " +042 µs\n"
  have ht : ['+', '0', '4', '2', ' ', 'µ', 's'] = t :=
    (hcore _).mp ⟨⟨[' '], ['\n'], rfl, rfl, rfl⟩, by simp [isBlank], by simp [isBlank]⟩
  subst ht
  have hdigits : Text.IsDigits ['0', '4', '2'] 42 := ⟨by simp, by simp, rfl⟩
  exact (hclassifies.ok_iff _).mpr ⟨42, .microsecond,
    ⟨_, _, .plus hdigits, .micro, [' '], rfl, rfl⟩, by decide, by decide, rfl⟩

end Sample
end AdaptiveShaper
