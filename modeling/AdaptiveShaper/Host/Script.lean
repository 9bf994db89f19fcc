import AdaptiveShaper.Text.Reader

/-!
# Shell scripts

The plain part of the shell language: commands of words and redirections, one after the other, with
quotes, parameters and comments.
-/

namespace AdaptiveShaper
namespace Shell

/-- A part of a word. -/
inductive Piece where
  | text (cs : List Char)
  /-- A parameter; outside double quotes its value is split at blanks. -/
  | parameter (name : Char) (quoted : Bool)
  deriving DecidableEq

/-- Where the output of a channel goes. -/
inductive Target where
  | channel (n : Nat)
  | file
  deriving DecidableEq

/-- A part of a command. -/
inductive Part where
  | word (pieces : List Piece)
  | redirect (channel : Nat) (target : Target)
  deriving DecidableEq

/-- When the command behind a connector is run. -/
inductive Connector where
  | always
  | onSuccess
  | onFailure
  deriving DecidableEq

/-- A command with the line it stands on and the connector before it. -/
structure Command where
  connector : Connector
  line : Nat
  parts : List Part
  deriving DecidableEq

namespace Read

open Text (Reader)
open Text.Reader

def isParameter (c : Char) : Bool := c.isDigit || ['@', '*', '#', '$', '?'].contains c

def parameter (quoted : Bool) : Reader Piece := do
  char '$'
  let name ← satisfy isParameter <|> (do
    char '\x7b'
    let name ← satisfy isParameter
    char '\x7d'
    return name)
  return .parameter name quoted

def singleQuoted : Reader Piece := do
  char '\''
  let cs ← takeWhile (· != '\'')
  char '\''
  return .text cs

def innerChar : Reader Char :=
  (do
    char '\\'
    oneOf ['"', '\\', '$', '\x60']) <|> satisfy (· != '"')

def doubleQuoted : Reader (List Piece) := do
  char '"'
  let pieces ← repeated (parameter true <|> (do return .text [← innerChar]))
  char '"'
  return .text [] :: pieces

def isPlain (c : Char) : Bool :=
  !([' ', '\t', '\n', ';', '&', '|', '<', '>', '(', ')', '\'', '"', '\\', '\x60'].contains c)

/-- A row of pieces without blanks between them; a number sign at its place begins a comment. -/
def word : Reader (List Piece) := do
  check ((← get).head? != some '#')
  let pieces ← repeated <| (do return [← parameter false]) <|> (do return [← singleQuoted]) <|>
    doubleQuoted <|> (do
      char '\\'
      return [.text [← satisfy fun _ => true]]) <|> (do return [.text [← satisfy isPlain]])
  check (!pieces.isEmpty)
  return pieces.flatten

def blank : Reader Unit := do
  let _ ← takeWhile fun c => c == ' ' || c == '\t'

def digit : Reader Nat := do
  let c ← satisfy Char.isDigit
  return c.toNat - '0'.toNat

def redirect : Reader Part := do
  let channel ← optional digit
  char '>'
  let _ ← optional (char '>')
  let target ← (do
    char '&'
    return Target.channel (← digit)) <|> (do
      blank
      let _ ← word
      return Target.file)
  return .redirect (channel.getD 1) target

def part : Reader Part := do
  let p ← redirect <|> (do return .word (← word))
  blank
  return p

def comment : Reader Unit := do
  char '#'
  let _ ← takeWhile (· != '\n')

/-- What stands between commands, and how many lines it ends. -/
def connector : Reader (Connector × Nat) := do
  let _ ← optional comment
  let found ← (do mark ['&', '&']; return (.onSuccess, 0)) <|>
    (do mark ['|', '|']; return (.onFailure, 0)) <|> (do char ';'; return (.always, 0)) <|>
    (do char '\n'; return (.always, 1))
  blank
  return found

def number : (line : Nat) → List (List Part × Connector × Nat) → Connector → List Command
  | _, [], _ => []
  | line, (parts, next, lines) :: rest, connector =>
    ⟨connector, line, parts⟩ :: number (line + lines) rest next

def script : Reader (List Command) := do
  blank
  let first ← repeated (do
    let parts ← repeated part
    let (next, lines) ← connector
    return (parts, next, lines))
  let last ← repeated part
  let _ ← optional comment
  atEnd
  return number 1 (first ++ [(last, .always, 0)]) .always

end Read
end Shell
end AdaptiveShaper
