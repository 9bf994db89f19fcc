import AdaptiveShaper.Proofs.Ingest.Input
import AdaptiveShaper.Proofs.Sample.Grammar

/-!
# The ways in agree

A round-trip time may be handed in as nanoseconds, as a span or as text. Texts that say a number of
nanoseconds are treated as that number, and texts that say a number of some unit as the span of that
length, whatever the state of the queue.
-/

namespace AdaptiveShaper

open Text (isBlank IsInteger)
open Sample (TimeUnit IsCore Says)

/-! ## Written samples -/

variable {numeral mark : List Char} {v : Int} {unit : TimeUnit}

theorem Sample.TimeUnit.IsMark.isBlank_of_mem (h : unit.IsMark mark) {c : Char} (hc : c ∈ mark) :
    isBlank c = false := by
  have hletters : mark ⊆ ['n', 'u', 'µ', 'm', 's'] := by
    cases h <;> simp
  by_contra hblank
  rw [Bool.not_eq_false] at hblank
  exact Sample.not_mem_marks (.inr hblank) (hletters hc)

/-- A numeral with a mark right behind it is all that is left if blanks around it are taken away. -/
theorem Sample.isCore_written (hnumeral : IsInteger numeral v) (hmark : unit.IsMark mark)
    {a c : List Char} (ha : a.all isBlank = true) (hc : c.all isBlank = true) :
    IsCore (numeral ++ mark) (a ++ (numeral ++ mark) ++ c) := by
  have hkept : ∀ x ∈ numeral ++ mark, isBlank x = false := by
    intro x hx
    rcases List.mem_append.mp hx with hx | hx
    · exact hnumeral.isBlank_of_mem hx
    · exact hmark.isBlank_of_mem hx
  exact ⟨⟨a, c, ha, hc, rfl⟩, fun x hx => hkept x (List.mem_of_mem_head? hx),
    fun x hx => hkept x (List.mem_of_mem_getLast? hx)⟩

theorem Sample.readSample_written (hnumeral : IsInteger numeral v) (hmark : unit.IsMark mark)
    (hlo : -2 ^ 63 ≤ v) (hhi : v ≤ 2 ^ 63 - 1) {a c : List Char} (ha : a.all isBlank = true)
    (hc : c.all isBlank = true) {input : String}
    (hinput : input.toList = a ++ (numeral ++ mark) ++ c) :
    Sample.readSample input = if v ≤ 0 then .error (.nonPositive v)
      else .ok (.ofNanos (v.toNat * unit.nanos)) := by
  have hcore := Sample.isCore_written hnumeral hmark ha hc
  rw [← hinput] at hcore
  have hsaid : Says (numeral ++ mark) v unit :=
    ⟨numeral, mark, hnumeral, hmark, [], rfl, by rw [List.append_nil]⟩
  exact Sample.readSample_of_said hcore hsaid hlo hhi

/-! ## Inputs that are read alike -/

namespace IngestQueue

/-- The answer depends on an input only through what is read. -/
theorem record_congr {i j : SampleInput} (h : i.read = j.read) (q : IngestQueue) :
    q.record i = q.record j := by
  rw [record_eq, record_eq, h]

theorem recordText_of_nanoseconds (q : IngestQueue) (hnumeral : IsInteger numeral v)
    (hmark : TimeUnit.nanosecond.IsMark mark) (hlo : -2 ^ 63 ≤ v) (hhi : v ≤ 2 ^ 63 - 1)
    {a c : List Char} (ha : a.all isBlank = true) (hc : c.all isBlank = true) {input : String}
    (hinput : input.toList = a ++ (numeral ++ mark) ++ c) :
    q.recordText input = q.recordNanos v := by
  refine record_congr (i := .text input) (j := .nanos v) ?_ q
  have hread := Sample.readSample_written hnumeral hmark hlo hhi ha hc hinput
  simp only [SampleInput.read, hread]
  split
  · rfl
  · rw [TimeUnit.nanos, Nat.mul_one]
    rfl

theorem recordText_of_units (q : IngestQueue) {n : Nat} (hnumeral : IsInteger numeral n)
    (hmark : unit.IsMark mark) (hpos : 1 ≤ n) (hhi : n ≤ 2 ^ 63 - 1) {input : String}
    (hinput : input.toList = numeral ++ mark) :
    q.recordText input = q.recordSpan (.ofNanos (n * unit.nanos)) := by
  refine record_congr (i := .text input) (j := .span (.ofNanos (n * unit.nanos))) ?_ q
  have hread := Sample.readSample_written hnumeral hmark (by omega) (by omega) (a := []) (c := [])
    rfl rfl (hinput.trans (List.append_nil _).symm)
  rw [if_neg (by omega), Int.toNat_natCast] at hread
  simp only [SampleInput.read, hread]
  rfl

theorem recordSpan_of_valid (q : IngestQueue) {d : Span} (hpos : 0 < d.nanos)
    (hle : d.nanos ≤ 2 ^ 64 - 1) : q.recordSpan d = q.enqueue d := by
  rw [recordSpan_eq, SampleInput.checkSpan_eq_ok_iff.mpr ⟨rfl, hpos, hle⟩]

theorem recordSpan_of_long (q : IngestQueue) {d : Span} (hlt : 2 ^ 64 - 1 < d.nanos) :
    q.recordSpan d = q.reject (.outOfRange d) := by
  have hzero : d.isZero = false := by
    rw [Span.isZero, beq_eq_false_iff_ne]
    omega
  have hlong : 0xffff_ffff_ffff_ffff < d.nanos := hlt
  rw [recordSpan, hzero, if_neg Bool.false_ne_true, if_pos hlong]

/-- Whatever the state of the queue, text that says a number of nanoseconds is answered as the
number itself, with the same queue and the same counters afterwards; and text that says a number of
some unit is answered as the span that long. That span is taken in if it has at most `2^64 - 1`
nanoseconds and there is room for it, and a longer one is out of range, which is one error. -/
theorem paths_agree (q : IngestQueue) :
    (∀ (n : Int) (before mark after : String), -2 ^ 63 ≤ n → n ≤ 2 ^ 63 - 1 →
      before.toList.all isBlank = true → after.toList.all isBlank = true →
      TimeUnit.nanosecond.IsMark mark.toList →
      q.recordText (before ++ toString n ++ mark ++ after) = q.recordNanos n) ∧
    ∀ (n : Nat) (unit : TimeUnit) (mark : String), 1 ≤ n → n ≤ 2 ^ 63 - 1 →
      unit.IsMark mark.toList → ∃ d : Span, d.nanos = n * unit.nanos ∧
        q.recordText (toString n ++ mark) = q.recordSpan d ∧
        ((q.recordSpan d).outcome = .ok () ↔
          d.nanos ≤ 2 ^ 64 - 1 ∧ q.attached = true ∧ q.waiting.length < q.capacity) ∧
        (2 ^ 64 - 1 < d.nanos → (q.recordSpan d).outcome = .error (.outOfRange d) ∧
          (q.recordSpan d).queue = { q with errors := q.errors + 1 }) := by
  constructor
  · intro n before mark after hlo hhi hbefore hafter hmark
    refine q.recordText_of_nanoseconds (Text.isInteger_toString n) hmark hlo hhi hbefore hafter ?_
    simp only [String.toList_append, List.append_assoc]
  · intro n unit mark hpos hhi hmark
    have hnumeral : IsInteger (toString n).toList n := Text.isInteger_toString n
    have hnanos := Sample.nanos_ofNanos_mul (show n < 2 ^ 63 by omega) unit
    have hd : 0 < (Span.ofNanos (n * unit.nanos)).nanos := by
      rw [hnanos]
      exact Nat.mul_pos hpos (by cases unit <;> decide)
    refine ⟨.ofNanos (n * unit.nanos), hnanos,
      q.recordText_of_units hnumeral hmark hpos hhi String.toList_append, ?_, ?_⟩
    · by_cases hle : (Span.ofNanos (n * unit.nanos)).nanos ≤ 2 ^ 64 - 1
      · rw [q.recordSpan_of_valid hd hle, outcome_enqueue_eq_ok_iff]
        exact ⟨fun h => ⟨hle, h⟩, fun h => h.2⟩
      · rw [q.recordSpan_of_long (by omega)]
        exact ⟨nofun, fun h => absurd h.1 hle⟩
    · intro hlt
      rw [q.recordSpan_of_long hlt]
      exact ⟨rfl, rfl⟩

/-- The least number of nanoseconds at a stopped queue, and the greatest number of seconds at one
that has room. -/
theorem paths_agree_extremes :
    (⟨1, [], 7, 0, 0, false⟩ : IngestQueue).recordText
        ("\t" ++ toString (-0x8000_0000_0000_0000 : Int) ++ "ns" ++ " ") =
      (⟨1, [], 7, 0, 0, false⟩ : IngestQueue).recordNanos (-0x8000_0000_0000_0000) ∧
    ((empty 1).recordText (toString 0x7fff_ffff_ffff_ffff ++ "s")).queue =
      { empty 1 with errors := 1 } := by
  constructor
  · exact (paths_agree _).1 (-0x8000_0000_0000_0000) "\t" "ns" " " (by decide) (by decide) rfl rfl
      .nanosecond
  · obtain ⟨d, hd, hrecord, _, hlong⟩ := (paths_agree (empty 1)).2 0x7fff_ffff_ffff_ffff .second "s"
      (by decide) (by decide) .second
    rw [hrecord]
    exact (hlong (by rw [hd]; decide)).2

end IngestQueue
end AdaptiveShaper
