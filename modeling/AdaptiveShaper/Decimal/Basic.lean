import AdaptiveShaper.Text.Basic

/-!
# Decimal numbers

A positive decimal number is a row of digits times a power of ten. Numerals have an optional point
and an optional exponent part; `float?` also accepts a sign and the names of infinity and NaN.
-/

namespace AdaptiveShaper

/-- The number `digits * 10^exponent`. -/
structure Decimal where
  digits : Nat
  exponent : Int
  deriving DecidableEq

namespace Decimal

/-- Which of two equally near neighbours a number is rounded to. -/
inductive Tie where
  | toEven
  | up
  deriving DecidableEq

/-- Whether a tie above `floor` goes to `floor + 1`. -/
def Tie.raises (tie : Tie) (floor : Nat) : Bool :=
  match tie with
  | .toEven => floor % 2 == 1
  | .up => true

/-- `num / den` rounded to the nearest whole number. -/
def roundQuotient (tie : Tie) (num den : Nat) : Nat :=
  let q := num / den
  let r := num % den
  if 2 * r < den then q
  else if den < 2 * r then q + 1
  else if tie.raises q then q + 1 else q

/-- The `k`-th power of ten. -/
def tenPow (k : Nat) : Nat := Nat.pow 10 k

def width (n : Nat) : Nat := (Nat.toDigits 10 n).length

def leadingExponent (d : Decimal) : Int := (width d.digits : Int) - 1 + d.exponent

/-! ## Numerals -/

/-- The binary64 number nearest to `digits * 10^exponent`. Numbers below `10^-400` and above
`10^400` are far outside the finite range, and are not computed with. -/
def toFloat (digits : Nat) (exponent : Int) : Float :=
  let e := leadingExponent ⟨digits, exponent⟩
  if digits = 0 ∨ e < -400 then 0.0
  else if 400 < e then 1.0 / 0.0
  else Float.ofScientific digits (exponent < 0) exponent.natAbs

/-- The exponent part of a numeral, after its `e`. -/
def exponent? : List Char → Option Int := Text.integer?

def splitExponent (s : List Char) : List Char × Option (List Char) :=
  let mantissa := s.takeWhile fun c => c != 'e' && c != 'E'
  match s.drop mantissa.length with
  | [] => (mantissa, none)
  | _ :: rest => (mantissa, some rest)

def numeral? (s : List Char) : Option (Nat × Int) := do
  let (mantissa, tail) := splitExponent s
  let whole := mantissa.takeWhile (· != '.')
  let places := (mantissa.drop whole.length).drop 1
  let ds ← Text.digits? (whole ++ places)
  let e ← match tail with
    | none => some 0
    | some t => exponent? t
  return (ds, e - places.length)

/-- An unsigned number: a numeral, or the name of infinity or NaN. -/
def magnitude? (s : List Char) : Option Float :=
  let name := String.ofList (s.map Char.toLower)
  if name = "inf" ∨ name = "infinity" then some (1.0 / 0.0)
  else if name = "nan" then some (0.0 / 0.0)
  else (numeral? s).map fun (ds, e) => toFloat ds e

def float? : List Char → Option Float
  | '-' :: s => (magnitude? s).map fun x => -x
  | '+' :: s => magnitude? s
  | s => magnitude? s

end Decimal
end AdaptiveShaper
