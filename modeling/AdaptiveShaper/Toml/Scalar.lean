import AdaptiveShaper.Decimal.Basic
import AdaptiveShaper.Text.Reader
import AdaptiveShaper.Toml.Table

/-!
# TOML values without parts

Blanks and comments, strings in their four forms, numbers, truth values, dates and times.
-/

namespace AdaptiveShaper
namespace Toml

open Text (Reader)
open Text.Reader

def isGap (c : Char) : Bool := c == ' ' || c == '\t'

/-- Characters that may stand in comments and strings: all but the control characters other than
tab. -/
def isPlain (c : Char) : Bool := c == '\t' || (0x20 ≤ c.toNat && c.toNat != 0x7f)

def hexValue (c : Char) : Nat :=
  if c.isDigit then c.toNat - '0'.toNat else c.toLower.toNat - 'a'.toNat + 10

def isHex (c : Char) : Bool := c.isDigit || ('a' ≤ c.toLower && c.toLower ≤ 'f')

def rowValue (base : Nat) (ds : List Char) : Nat := ds.foldl (fun n c => base * n + hexValue c) 0

namespace Read

def blank : Reader Unit := do
  let _ ← takeWhile isGap

def newline : Reader Unit := mark ['\n'] <|> mark ['\r', '\n']

def comment : Reader Unit := do
  char '#'
  let _ ← takeWhile isPlain

/-- What may follow on a line: blanks, a comment, and the end of the line or of the text. -/
def lineEnd : Reader Unit := do
  blank
  let _ ← optional comment
  newline <|> atEnd

/-- Blanks, comments and line ends between the items of an array. -/
def space : Reader Unit := do
  let _ ← repeated ((do let _ ← takeWhile1 isGap) <|> newline <|> comment)

/-! ## Strings -/

/-- A character given by `n` hexadecimal digits. -/
def codePoint (n : Nat) : Reader Char := do
  let value := rowValue 16 (← exactly isHex n)
  if value.isValidChar then return Char.ofNat value else failure

def escape : Reader Char := do
  char '\\'
  match ← satisfy fun _ => true with
  | 'b' => return '\x08'
  | 't' => return '\t'
  | 'n' => return '\n'
  | 'f' => return '\x0c'
  | 'r' => return '\r'
  | '"' => return '"'
  | '\\' => return '\\'
  | 'u' => codePoint 4
  | 'U' => codePoint 8
  | _ => failure

def basicChar : Reader Char := satisfy (fun c => isPlain c && c != '"' && c != '\\') <|> escape

def literalChar : Reader Char := satisfy fun c => isPlain c && c != '\''

def lineString (quote : Char) (content : Reader Char) : Reader String := do
  char quote
  let cs ← repeated content
  char quote
  return String.ofList cs

/-- One or two quotes that do not belong to the end of a string. -/
def looseQuotes (quote : Char) : Reader (List Char) := fun s =>
  let run := s.takeWhile (· == quote)
  if run.length = 1 ∨ run.length = 2 then some (run, s.drop run.length) else none

/-- The end of a string on several lines, with up to two quotes before it. -/
def closingQuotes (quote : Char) : Reader (List Char) :=
  (do mark (List.replicate 5 quote); return [quote, quote]) <|>
  (do mark (List.replicate 4 quote); return [quote]) <|>
  (do mark (List.replicate 3 quote); return [])

def innerNewline : Reader (List Char) := do
  newline
  return ['\n']

/-- A line break that is taken back, with the blanks and line breaks around it. -/
def foldedNewline : Reader (List Char) := do
  char '\\'
  blank
  newline
  let _ ← repeated ((do let _ ← takeWhile1 isGap) <|> newline)
  return []

/-- A string on several lines; a line break right at its beginning does not count. -/
def blockString (quote : Char) (content : Reader (List Char)) : Reader String := do
  mark (List.replicate 3 quote)
  let _ ← optional newline
  let parts ← repeated (content <|> innerNewline <|> looseQuotes quote)
  let last ← closingQuotes quote
  return String.ofList (parts.flatten ++ last)

def single (r : Reader Char) : Reader (List Char) := do return [← r]

def string : Reader String :=
  blockString '"' (foldedNewline <|> single basicChar) <|> lineString '"' basicChar <|>
    blockString '\'' (single literalChar) <|> lineString '\'' literalChar

/-! ## Numbers -/

/-- Digits, with single underscores between some of them, as a row of digits. -/
def digitRow (p : Char → Bool) : Reader (List Char) := do
  let first ← satisfy p
  let more ← repeated (satisfy p <|> (char '_' *> satisfy p))
  return first :: more

/-- A sign, if there is one; tells whether it is a minus sign. -/
def sign : Reader Bool := do
  let c ← optional (oneOf ['+', '-'])
  return c == some '-'

def wholeRow : Reader (List Char) := do
  let first ← satisfy Char.isDigit
  if first = '0' then return [first]
  let more ← repeated (satisfy Char.isDigit <|> (char '_' *> satisfy Char.isDigit))
  return first :: more

def based (m : Char) (base : Nat) (p : Char → Bool) : Reader Int := do
  mark ['0', m]
  return Int.ofNat (rowValue base (← digitRow p))

def decimalInteger : Reader Int := do
  let negative ← sign
  let n := rowValue 10 (← wholeRow)
  return if negative then -(n : Int) else n

/-- A whole number in the range of 64-bit integers. -/
def integer : Reader Int := do
  let n ← based 'x' 16 isHex <|> based 'o' 8 (fun c => '0' ≤ c && c ≤ '7') <|>
    based 'b' 2 (fun c => c == '0' || c == '1') <|> decimalInteger
  check (Text.inInt64 n)
  return n

def exponent : Reader Int := do
  let _ ← oneOf ['e', 'E']
  let negative ← sign
  let n := rowValue 10 (← digitRow Char.isDigit)
  return if negative then -(n : Int) else n

def places : Reader (List Char) := do
  char '.'
  digitRow Char.isDigit

/-- A number with a point, an exponent part, or both. A positive number must not be beyond the
finite range. -/
def finiteFloat : Reader Float := do
  let negative ← sign
  let whole ← wholeRow
  let (fraction, e) ← (do return ([], ← exponent)) <|>
    (do
      let fraction ← places
      let e ← optional exponent
      return (fraction, e.getD 0))
  let x := Decimal.toFloat (rowValue 10 (whole ++ fraction)) (e - fraction.length)
  check (negative || x.isFinite)
  return if negative then -x else x

/-- Infinity or NaN, with an optional sign. -/
def specialFloat : Reader Float := do
  let negative ← sign
  let x ← (do mark ['i', 'n', 'f']; return 1.0 / 0.0) <|>
    (do mark ['n', 'a', 'n']; return 0.0 / 0.0)
  return if negative then -x else x

def float : Reader Float := finiteFloat <|> specialFloat

/-! ## Dates and times -/

/-- A number of `n` digits in a range. -/
def field (n lo hi : Nat) : Reader Nat := do
  let value := rowValue 10 (← exactly Char.isDigit n)
  check (lo ≤ value && value ≤ hi)
  return value

def monthDays (year month : Nat) : Nat :=
  if month = 2 then
    if year % 4 = 0 ∧ (year % 100 ≠ 0 ∨ year % 400 = 0) then 29 else 28
  else if month = 4 ∨ month = 6 ∨ month = 9 ∨ month = 11 then 30
  else 31

def date : Reader Unit := do
  let year ← field 4 0 9999
  char '-'
  let month ← field 2 1 12
  char '-'
  let _ ← field 2 1 (monthDays year month)

/-- A time of day, leap seconds included. -/
def timeOfDay : Reader Unit := do
  let _ ← field 2 0 23
  char ':'
  let _ ← field 2 0 59
  char ':'
  let _ ← field 2 0 60
  let _ ← optional (char '.' *> takeWhile1 Char.isDigit)

def offset : Reader Unit := do
  let c ← oneOf ['Z', 'z', '+', '-']
  if c = '+' ∨ c = '-' then
    let _ ← field 2 0 23
    char ':'
    let _ ← field 2 0 59

/-- A date, a time of day, or both, then also with the distance from universal time. -/
def moment : Reader Unit :=
  (do
    date
    let _ ← optional (do
      let _ ← oneOf ['T', 't', ' ']
      timeOfDay
      optional offset)) <|> timeOfDay

def boolean : Reader Bool :=
  (do mark "true".toList; return true) <|> (do mark "false".toList; return false)

def scalar : Reader Value :=
  (do return .string (← string)) <|> (do return .boolean (← boolean)) <|>
  (do return .moment (String.ofList (← taken moment))) <|> (do return .float (← float)) <|>
  (do return .integer (← integer))

end Read
end Toml
end AdaptiveShaper
