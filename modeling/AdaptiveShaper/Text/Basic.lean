/-!
# Characters, numerals and bytes

Texts are trimmed of the characters with the Unicode property `White_Space`, whole numbers are read
from ASCII digits, and bytes are read as UTF-8, with the replacement character where they are not
well formed.
-/

namespace AdaptiveShaper

/-! ## Blanks -/

namespace Text

/-- The Unicode property `White_Space`. -/
def isBlank (c : Char) : Bool :=
  let n := c.toNat
  (0x09 ≤ n && n ≤ 0x0d) || n == 0x20 || n == 0x85 || n == 0xa0 || n == 0x1680 ||
    (0x2000 ≤ n && n ≤ 0x200a) || n == 0x2028 || n == 0x2029 || n == 0x202f || n == 0x205f ||
    n == 0x3000

def trimStart (s : List Char) : List Char := s.dropWhile isBlank

def trimEnd (s : List Char) : List Char := (s.reverse.dropWhile isBlank).reverse

def trim (s : List Char) : List Char := trimEnd (trimStart s)

theorem trimStart_eq_self {s : List Char} (h : ∀ c, s.head? = some c → isBlank c = false) :
    trimStart s = s := by
  cases s with
  | nil => rfl
  | cons c rest => simp [trimStart, h c rfl]

theorem isBlank_of_head?_trimStart {s : List Char} {c : Char}
    (h : (trimStart s).head? = some c) : isBlank c = false := by
  have h₁ := List.head?_dropWhile_not isBlank s
  rw [trimStart] at h
  rw [h] at h₁
  simpa using h₁

theorem eq_append_trimStart (s : List Char) :
    ∃ a, a.all isBlank = true ∧ s = a ++ trimStart s :=
  ⟨s.takeWhile isBlank, by simp, (List.takeWhile_append_dropWhile).symm⟩

theorem eq_trimEnd_append (s : List Char) :
    ∃ c, c.all isBlank = true ∧ s = trimEnd s ++ c := by
  obtain ⟨a, ha, h⟩ := eq_append_trimStart s.reverse
  refine ⟨a.reverse, by simpa using ha, ?_⟩
  have h₁ := congrArg List.reverse h
  simpa [trimEnd, trimStart] using h₁

/-- Only blanks are taken from both ends. -/
theorem eq_append_trim (s : List Char) : ∃ a c, a.all isBlank = true ∧ c.all isBlank = true ∧
    s = a ++ trim s ++ c := by
  obtain ⟨a, ha, h⟩ := eq_append_trimStart s
  obtain ⟨c, hc, h₁⟩ := eq_trimEnd_append (trimStart s)
  exact ⟨a, c, ha, hc, by rw [List.append_assoc, trim, ← h₁]; exact h⟩

/-- The text left in front of what is taken from the end starts as the whole text does. -/
theorem head?_of_head?_trimEnd {s : List Char} {c : Char} (h : (trimEnd s).head? = some c) :
    s.head? = some c := by
  obtain ⟨e, _, he⟩ := eq_trimEnd_append s
  rw [he, List.head?_append, h]
  rfl

theorem isBlank_of_head?_trim {s : List Char} {c : Char} (h : (trim s).head? = some c) :
    isBlank c = false :=
  isBlank_of_head?_trimStart (head?_of_head?_trimEnd h)

theorem isBlank_of_getLast?_trim {s : List Char} {c : Char}
    (h : (trim s).getLast? = some c) : isBlank c = false := by
  rw [trim, trimEnd, List.getLast?_reverse] at h
  exact isBlank_of_head?_trimStart h

/-! ## Numerals -/

def digitValue (c : Char) : Nat := c.toNat - '0'.toNat

/-- The number that a row of decimal digits stands for, read after the digits of `acc`. -/
def digitsValue (acc : Nat) (ds : List Char) : Nat :=
  ds.foldl (fun n c => 10 * n + digitValue c) acc

def digits? (s : List Char) : Option Nat :=
  if s.isEmpty || !s.all Char.isDigit then none else some (digitsValue 0 s)

def natural? : List Char → Option Nat
  | '+' :: ds => digits? ds
  | ds => digits? ds

def integer? : List Char → Option Int
  | '-' :: ds => (digits? ds).map fun n => -(n : Int)
  | ds => (natural? ds).map fun n => (n : Int)

/-- A natural number in decimal, filled with zeros in front up to `width` digits. -/
def padded (width n : Nat) : List Char :=
  let ds := Nat.toDigits 10 n
  List.replicate (width - ds.length) '0' ++ ds

/-- A number in the range of signed 64-bit integers. -/
def inInt64 (i : Int) : Bool := -0x8000_0000_0000_0000 ≤ i && i < 0x8000_0000_0000_0000

/-! ## Bytes -/

def replacement : Char := '\ufffd'

/-- How many bytes follow a first byte, and the range of the first of them; nothing if no character
of several bytes begins so. -/
def following? (b : Nat) : Option (Nat × Nat × Nat) :=
  if 0xc2 ≤ b ∧ b ≤ 0xdf then some (1, 0x80, 0xbf)
  else if b = 0xe0 then some (2, 0xa0, 0xbf)
  else if b = 0xed then some (2, 0x80, 0x9f)
  else if 0xe1 ≤ b ∧ b ≤ 0xef then some (2, 0x80, 0xbf)
  else if b = 0xf0 then some (3, 0x90, 0xbf)
  else if 0xf1 ≤ b ∧ b ≤ 0xf3 then some (3, 0x80, 0xbf)
  else if b = 0xf4 then some (3, 0x80, 0x8f)
  else none

def leadBits (b : Nat) : Nat :=
  if b < 0xe0 then b - 0xc0 else if b < 0xf0 then b - 0xe0 else b - 0xf0

/-- Adds the bytes that follow to a character begun with `value`. Gives the character, if `count`
bytes with the first of them from `lo` to `hi` are there, and the rest of the bytes. -/
def continued : (count lo hi value : Nat) → List Nat → Char × List Nat
  | 0, _, _, value, rest => (Char.ofNat value, rest)
  | _ + 1, _, _, _, [] => (replacement, [])
  | count + 1, lo, hi, value, b :: rest =>
    if lo ≤ b ∧ b ≤ hi then continued count 0x80 0xbf (64 * value + (b - 0x80)) rest
    else (replacement, b :: rest)

theorem length_continued_le (count lo hi value : Nat) (bytes : List Nat) :
    (continued count lo hi value bytes).2.length ≤ bytes.length := by
  induction count generalizing lo hi value bytes with
  | zero => simp [continued]
  | succ count ih =>
    cases bytes with
    | nil => simp [continued]
    | cons b rest =>
      simp only [continued]
      split
      · exact Nat.le_succ_of_le (ih _ _ _ _)
      · exact Nat.le_refl _

def ofBytes : List Nat → List Char
  | [] => []
  | b :: rest =>
    if b < 0x80 then Char.ofNat b :: ofBytes rest
    else match following? b with
      | none => replacement :: ofBytes rest
      | some (count, lo, hi) =>
        (continued count lo hi (leadBits b) rest).1 ::
          ofBytes (continued count lo hi (leadBits b) rest).2
termination_by bytes => bytes.length
decreasing_by
  · simp
  · simp
  · exact Nat.lt_succ_of_le (length_continued_le _ _ _ _ _)

end Text
end AdaptiveShaper
