/-!
# Reading texts

A reader takes characters from the front of a text and gives a value, or fails. Repetition ends at
the first failure, and also when a reader succeeds without taking anything.
-/

namespace AdaptiveShaper
namespace Text

abbrev Reader := StateT (List Char) Option

namespace Reader

variable {α β : Type}

def satisfy (p : Char → Bool) : Reader Char
  | [] => none
  | c :: rest => if p c then some (c, rest) else none

def char (c : Char) : Reader Unit := do
  let _ ← satisfy (· == c)

def oneOf (cs : List Char) : Reader Char := satisfy fun c => cs.contains c

def mark (cs : List Char) : Reader Unit := fun s =>
  if cs.isPrefixOf s then some ((), s.drop cs.length) else none

/-- Takes all characters up to the first that is not of a kind. -/
def takeWhile (p : Char → Bool) : Reader (List Char) := fun s =>
  some (s.takeWhile p, s.dropWhile p)

/-- Like `takeWhile`, but takes at least one. -/
def takeWhile1 (p : Char → Bool) : Reader (List Char) := do
  let c ← satisfy p
  let rest ← takeWhile p
  return c :: rest

/-- Takes `n` characters of a kind. -/
def exactly (p : Char → Bool) : (n : Nat) → Reader (List Char)
  | 0 => return []
  | n + 1 => do
    let c ← satisfy p
    let rest ← exactly p n
    return c :: rest

def atEnd : Reader Unit
  | [] => some ((), [])
  | _ => none

def check (p : Bool) : Reader Unit := if p then return () else failure

/-- The values that a reader gives on a text, and the rest where it takes nothing more. -/
def collect (r : Reader α) (s : List Char) : List α × List Char :=
  match r s with
  | none => ([], s)
  | some (a, rest) =>
    if rest.length < s.length then
      let (more, last) := collect r rest
      (a :: more, last)
    else ([], s)
termination_by s.length

def repeated (r : Reader α) : Reader (List α) := fun s => some (collect r s)

/-- Reads once or more often, with something between. -/
def separated (between : Reader β) (r : Reader α) : Reader (List α) := do
  let first ← r
  let more ← repeated (between *> r)
  return first :: more

def taken (r : Reader α) : Reader (List Char) := fun s => do
  let (_, rest) ← r s
  return (s.take (s.length - rest.length), rest)

def whole? (r : Reader α) (s : List Char) : Option α :=
  match r s with
  | some (a, []) => some a
  | _ => none

end Reader
end Text
end AdaptiveShaper
