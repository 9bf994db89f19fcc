import AdaptiveShaper.Toml.Scalar

/-!
# Reading TOML

The text of a document becomes a list of statements, one for each header and each key with a value,
and the statements build a table.
-/

namespace AdaptiveShaper

/-! ## Documents -/

namespace Toml

open Text (Reader)
open Text.Reader

/-- What a line of a document says. -/
inductive Statement where
  | header (path : List String)
  | element (path : List String)
  | define (key : List String) (v : Value)

/-- The number that parts of a key and levels of nesting stay below. -/
def depthLimit : Nat := 80

namespace Read

/-- Letters, digits, underscores and hyphens. -/
def isBare (c : Char) : Bool :=
  ('a' ≤ c && c ≤ 'z') || ('A' ≤ c && c ≤ 'Z') || c.isDigit || c == '_' || c == '-'

def keyPart : Reader String := do
  blank
  let part ← (do return String.ofList (← takeWhile1 isBare)) <|> lineString '"' basicChar <|>
    lineString '\'' literalChar
  blank
  return part

/-- A key, its parts between points. -/
def key : Reader (List String) := do
  let parts ← separated (char '.') keyPart
  check (parts.length < depthLimit)
  return parts

def binding (value : Reader Value) : Reader (List String × Value) := do
  let k ← key
  char '='
  blank
  let v ← value
  return (k, v)

def array (value : Reader Value) : Reader Value := do
  char '['
  space
  let items ← optional (separated (char ',' *> space) (value <* space))
  if items.isSome then
    let _ ← optional (char ',' *> space)
  char ']'
  return .array (items.getD [])

def inlineTable (value : Reader Value) : Reader Value := do
  char '\x7b'
  let bindings ← optional (separated (char ',') (binding value <* blank))
  blank
  char '\x7d'
  match (bindings.getD []).foldlM (fun t (k, v) => t.define k v) (Table.empty .defined) with
  | none => failure
  | some t => return .table t

/-- A value with at most `room` levels of nesting. -/
def value : (room : Nat) → Reader Value
  | 0 => scalar
  | room + 1 => array (value room) <|> inlineTable (value room) <|> scalar

def header (opening closing : List Char) : Reader (List String) := do
  mark opening
  let path ← key
  mark closing
  lineEnd
  return path

/-- A line, with the statement that it makes. -/
def line : Reader (Option Statement) :=
  (do comment; newline <|> atEnd; return none) <|> (do newline; return none) <|>
  (do return some (.element (← header ['[', '['] [']', ']']))) <|>
  (do return some (.header (← header ['['] [']']))) <|>
  (do
    let (k, v) ← binding (value (depthLimit - 1))
    lineEnd
    return some (.define k v))

/-- All lines of a document, after an optional byte order mark. -/
def lines : Reader (List Statement) := do
  let _ ← optional (char '\ufeff')
  blank
  let statements ← repeated (line <* blank)
  atEnd
  return statements.filterMap id

end Read

/-- A document while it is built: the table so far, and the path of the table that is open. -/
structure Draft where
  root : Table
  current : List String

namespace Draft

def obey (d : Draft) : Statement → Option Draft
  | .header path => do return ⟨← d.root.openTable path, path⟩
  | .element path => do return ⟨← d.root.openElement path, path⟩
  | .define k v => do return { d with root := ← d.root.modify false (Table.define k v) d.current }

end Draft

/-- The table that a text describes, if it is a document. The parser of settings files is assumed to
accept and to read texts as this one does. -/
def document? (text : String) : Option Table := do
  let statements ← Reader.whole? Read.lines text.toList
  let draft ← statements.foldlM Draft.obey ⟨.empty .defined, []⟩
  return draft.root

/-! ## Quoted text -/

/-- The length of the longest row of `c` in a text. -/
def longestRow (c : Char) (s : List Char) : Nat :=
  (s.foldl (fun (longest, row) x =>
    let row := if x = c then row + 1 else 0
    (max longest row, row)) (0, 0)).1

def needsEscape (c : Char) : Bool :=
  c != '\t' && c != '\n' && (c.toNat < 0x20 || c.toNat == 0x7f)

/-- What decides on the form of a string. -/
structure StringTraits where
  controls : Bool
  backslash : Bool
  newline : Bool
  doubleQuotes : Nat
  singleQuotes : Nat

def StringTraits.of (s : List Char) : StringTraits where
  controls := s.any needsEscape
  backslash := s.contains '\\'
  newline := s.contains '\n'
  doubleQuotes := longestRow '"' s
  singleQuotes := longestRow '\'' s

/-- The forms of a string. -/
inductive StringForm where
  | basic
  | literal
  | basicBlock
  | literalBlock
  deriving DecidableEq

def StringTraits.form (t : StringTraits) : StringForm :=
  if !t.controls && !t.backslash && t.doubleQuotes == 0 && !t.newline then .basic
  else if !t.controls && t.singleQuotes == 0 && !t.newline then .literal
  else if !t.controls && !t.backslash && t.doubleQuotes ≤ 2 then .basicBlock
  else if !t.controls && t.singleQuotes ≤ 2 then .literalBlock
  else if t.newline then .basicBlock
  else .basic

/-- A character by its number, in four upper-case hexadecimal digits. -/
def codeEscape (c : Char) : List Char :=
  let ds := (Nat.toDigits 16 c.toNat).map Char.toUpper
  ['\\', 'u'] ++ List.replicate (4 - ds.length) '0' ++ ds

/-- How a character other than a quote is written where escapes are read. -/
def escapeChar (block : Bool) (c : Char) : List Char :=
  if c = '\x08' then ['\\', 'b']
  else if c = '\t' then ['\\', 't']
  else if c = '\n' then if block then [c] else ['\\', 'n']
  else if c = '\x0c' then ['\\', 'f']
  else if c = '\r' then ['\\', 'r']
  else if c = '\\' then ['\\', '\\']
  else if c.toNat < 0x20 || c.toNat = 0x7f then codeEscape c
  else [c]

/-- A text where escapes are read. Of a row of quotes, `allowed` stand for themselves; the next one
is escaped. -/
def escaped (block : Bool) (allowed : Nat) : (row : Nat) → List Char → List Char
  | _, [] => []
  | row, c :: rest =>
    if c = '"' then
      if row < allowed then c :: escaped block allowed (row + 1) rest
      else '\\' :: c :: escaped block allowed 0 rest
    else escapeChar block c ++ escaped block allowed 0 rest

def stringText (s : String) : String :=
  let cs := s.toList
  let t := StringTraits.of cs
  let opening := if t.newline then ['\n'] else []
  String.ofList <| match t.form with
    | .basic => '"' :: escaped false 0 0 cs ++ ['"']
    | .literal => '\'' :: cs ++ ['\'']
    | .basicBlock => List.replicate 3 '"' ++ opening ++ escaped true 2 0 cs ++ List.replicate 3 '"'
    | .literalBlock => List.replicate 3 '\'' ++ opening ++ cs ++ List.replicate 3 '\''

end Toml
end AdaptiveShaper
