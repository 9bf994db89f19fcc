import AdaptiveShaper.Host.Execution
import AdaptiveShaper.Text.Basic

/-!
# Socket addresses

Internet addresses with a `portNumber`, read from their usual texts and written in canonical form.
The readers take a text and give what they read with the rest of the text.
-/

namespace AdaptiveShaper

/-- An IPv4 address, octet by octet. -/
structure Ipv4 where
  a : Nat
  b : Nat
  c : Nat
  d : Nat
  deriving DecidableEq

/-- An internet address with a `portNumber`; an IPv6 address is a list of eight groups. -/
inductive SocketAddress where
  | v4 (address : Ipv4) (portNumber : Nat)
  | v6 (groups : List Nat) (scope portNumber : Nat)
  deriving DecidableEq

namespace SocketAddress

def portNumber : SocketAddress → Nat
  | .v4 _ n => n
  | .v6 _ _ n => n

/-- Why an address that is not one of the host's own cannot be bound: numbers below 1024 are
reserved, which is found first. -/
def foreignFault (a : SocketAddress) : OsError :=
  if a.portNumber < 1024 then .permissionDenied else .addressNotAvailable

def readMark (c : Char) : List Char → Option (Unit × List Char)
  | x :: rest => if x = c then some ((), rest) else none
  | [] => none

def hexValue? (c : Char) : Option Nat :=
  if '0' ≤ c ∧ c ≤ '9' then some (c.toNat - 48)
  else if 'a' ≤ c ∧ c ≤ 'f' then some (c.toNat - 87)
  else if 'A' ≤ c ∧ c ≤ 'F' then some (c.toNat - 55)
  else none

def isDigitOf (base : Nat) (c : Char) : Bool :=
  match hexValue? c with
  | none => false
  | some v => v < base

/-- Reads a number of at most `places` digits below `limit`. -/
def readNumber (base : Nat) (places : Option Nat) (leadingZeros : Bool) (limit : Nat)
    (s : List Char) : Option (Nat × List Char) :=
  let ds := s.takeWhile (isDigitOf base)
  let n := ds.foldl (fun a c => base * a + (hexValue? c).getD 0) 0
  let tooLong := match places with
    | none => false
    | some p => p < ds.length
  if ds.isEmpty || tooLong || (!leadingZeros && ds.head? == some '0' && 1 < ds.length) || limit ≤ n
  then none
  else some (n, s.drop ds.length)

def readOctet (s : List Char) : Option (Nat × List Char) := readNumber 10 (some 3) false 256 s

def readNextOctet (s : List Char) : Option (Nat × List Char) := do
  let (_, s) ← readMark '.' s
  readOctet s

def readIpv4 (s : List Char) : Option (Ipv4 × List Char) := do
  let (a, s) ← readOctet s
  let (b, s) ← readNextOctet s
  let (c, s) ← readNextOctet s
  let (d, s) ← readNextOctet s
  return (⟨a, b, c, d⟩, s)

/-- Reads a colon and a `portNumber`. -/
def readPort (s : List Char) : Option (Nat × List Char) := do
  let (_, s) ← readMark ':' s
  readNumber 10 none true 65536 s

/-- The groups an IPv4 address takes at the end of an IPv6 one. -/
def Ipv4.groups (x : Ipv4) : List Nat := [256 * x.a + x.b, 256 * x.c + x.d]

/-- Reads at most `room` groups; a last pair may be written as an IPv4 address. Gives the groups and
whether they end in an IPv4 address. -/
def readGroups : (room : Nat) → (isFirst : Bool) → List Char → (List Nat × Bool) × List Char
  | 0, _, s => (([], false), s)
  | room + 1, isFirst, s =>
    let opened := if isFirst then some s else (readMark ':' s).map (·.2)
    match opened with
    | none => (([], false), s)
    | some t =>
      match (if 1 ≤ room then readIpv4 t else none) with
      | some (x, rest) => ((Ipv4.groups x, true), rest)
      | none =>
        match readNumber 16 (some 4) true 65536 t with
        | none => (([], false), s)
        | some (g, rest) =>
          let ((gs, embedded), rest) := readGroups room false rest
          ((g :: gs, embedded), rest)

/-- Reads eight groups, or fewer around a `::`. -/
def readIpv6 (s : List Char) : Option (List Nat × List Char) :=
  let ((front, embedded), rest) := readGroups 8 true s
  if front.length = 8 then some (front, rest)
  else if embedded then none
  else do
    let (_, rest) ← readMark ':' rest
    let (_, rest) ← readMark ':' rest
    let ((back, _), rest) := readGroups (8 - (front.length + 1)) true rest
    return (front ++ List.replicate (8 - front.length - back.length) 0 ++ back, rest)

def readScope (s : List Char) : Option (Nat × List Char) :=
  match s with
  | '%' :: rest => readNumber 10 none true 0x1_0000_0000 rest
  | _ => some (0, s)

/-- Reads an IPv4 address and a `portNumber`. -/
def readV4 (s : List Char) : Option (SocketAddress × List Char) := do
  let (x, s) ← readIpv4 s
  let (p, s) ← readPort s
  return (.v4 x p, s)

/-- Reads an IPv6 address in brackets and a `portNumber`. -/
def readV6 (s : List Char) : Option (SocketAddress × List Char) := do
  let (_, s) ← readMark '[' s
  let (gs, s) ← readIpv6 s
  let (scope, s) ← readScope s
  let (_, s) ← readMark ']' s
  let (p, s) ← readPort s
  return (.v6 gs scope p, s)

def ofText? (text : String) : Option SocketAddress :=
  match (readV4 text.toList).orElse fun _ => readV6 text.toList with
  | some (a, []) => some a
  | _ => none

/-- The octets of an IPv4 address. -/
def Ipv4.text (x : Ipv4) : String :=
  String.intercalate "." ([x.a, x.b, x.c, x.d].map toString)

def groupsText (gs : List Nat) : String :=
  String.intercalate ":" (gs.map fun g => String.ofList (Nat.toDigits 16 g))

def leadingZeros (gs : List Nat) : Nat := (gs.takeWhile (· == 0)).length

def longestZeros (gs : List Nat) : Nat × Nat :=
  (List.range gs.length).foldl (fun (start, n) i =>
    let m := leadingZeros (gs.drop i)
    if n < m then (i, m) else (start, n)) (0, 0)

/-- An IPv6 address in canonical form. -/
def ipv6Text (gs : List Nat) : String :=
  match gs with
  | [0, 0, 0, 0, 0, 0xffff, x, y] =>
    "::ffff:" ++ Ipv4.text ⟨x / 256, x % 256, y / 256, y % 256⟩
  | _ =>
    let (start, n) := longestZeros gs
    if 1 < n then groupsText (gs.take start) ++ "::" ++ groupsText (gs.drop (start + n))
    else groupsText gs

def text : SocketAddress → String
  | .v4 x n => Ipv4.text x ++ ":" ++ toString n
  | .v6 gs scope n =>
    let zone := if scope = 0 then "" else "%" ++ toString scope
    "[" ++ ipv6Text gs ++ zone ++ "]:" ++ toString n

end SocketAddress
end AdaptiveShaper
