import AdaptiveShaper.Decimal.Layout

/-!
# JSON

The values of status documents, and their text: on one line, or indented with one item or field a
line. A number that is not finite is written as `null`.
-/

namespace AdaptiveShaper

/-- A JSON value; the fields of an object in the order they are written. -/
inductive Json where
  | null
  | bool (b : Bool)
  | integer (n : Int)
  | number (x : Float)
  | string (s : String)
  | array (items : List Json)
  | object (fields : List (String × Json))

namespace Json

def nat (n : Nat) : Json := .integer n

def orNull {α : Type} (encode : α → Json) : Option α → Json
  | none => .null
  | some a => encode a

/-! ## Text -/

def hexPair (n : Nat) : List Char := [Nat.digitChar (n / 16 % 16), Nat.digitChar (n % 16)]

def escape (c : Char) : List Char :=
  if c = '"' then ['\\', '"']
  else if c = '\\' then ['\\', '\\']
  else if c = '\x08' then ['\\', 'b']
  else if c = '\t' then ['\\', 't']
  else if c = '\n' then ['\\', 'n']
  else if c = '\x0c' then ['\\', 'f']
  else if c = '\r' then ['\\', 'r']
  else if c.toNat < 0x20 then ['\\', 'u', '0', '0'] ++ hexPair c.toNat
  else [c]

def stringText (s : String) : String :=
  String.ofList ('"' :: (s.toList.flatMap escape ++ ['"']))

def leafText : Json → String
  | .null => "null"
  | .bool true => "true"
  | .bool false => "false"
  | .integer n => toString n
  | .number x => if x.isFinite then Decimal.Layout.document.text x else "null"
  | .string s => stringText s
  | .array _ => "[]"
  | .object _ => "\x7b\x7d"

mutual

/-- A value on one line, without blanks. -/
def compact : Json → String
  | .array items => "[" ++ String.intercalate "," (compactItems items) ++ "]"
  | .object fields => "\x7b" ++ String.intercalate "," (compactFields fields) ++ "\x7d"
  | leaf => leafText leaf

def compactItems : List Json → List String
  | [] => []
  | v :: rest => compact v :: compactItems rest

def compactFields : List (String × Json) → List String
  | [] => []
  | (k, v) :: rest => (stringText k ++ ":" ++ compact v) :: compactFields rest

end

def newline (level : Nat) : String := "\n" ++ String.ofList (List.replicate (2 * level) ' ')

mutual

/-- A value with one item or field a line, `level` levels deep. -/
def indented (level : Nat) : Json → String
  | .array (v :: rest) =>
    let lines := indentedItems (level + 1) (v :: rest)
    "[" ++ newline (level + 1) ++ String.intercalate ("," ++ newline (level + 1)) lines ++
      newline level ++ "]"
  | .object (f :: rest) =>
    let lines := indentedFields (level + 1) (f :: rest)
    "\x7b" ++ newline (level + 1) ++ String.intercalate ("," ++ newline (level + 1)) lines ++
      newline level ++ "\x7d"
  | leaf => leafText leaf

def indentedItems (level : Nat) : List Json → List String
  | [] => []
  | v :: rest => indented level v :: indentedItems level rest

def indentedFields (level : Nat) : List (String × Json) → List String
  | [] => []
  | (k, v) :: rest => (stringText k ++ ": " ++ indented level v) :: indentedFields level rest

end

def document (v : Json) : String := indented 0 v

end Json
end AdaptiveShaper
