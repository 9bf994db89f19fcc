import AdaptiveShaper.Binary64.Basic
import AdaptiveShaper.Decimal.Basic

/-!
# Binary64 numbers in decimal

The shortest decimal that reads back as `m * 2^e` is searched digit by digit up to seventeen, which
always suffice: on each grid of decimals the two neighbours of the number are compared with the
interval of all reals that are rounded to it.
-/

namespace AdaptiveShaper

/-! ## The shortest decimal -/

namespace Decimal

/-- A positive number `value / scale` with the ends of the interval that rounds to it, all over the
same denominator. -/
structure Interval where
  value : Nat
  lower : Nat
  upper : Nat
  scale : Nat
  closed : Bool

/-- The reals whose nearest binary64 number is `m * 2^e`. Below a power of two the neighbours are
half as far apart as above it. -/
def Interval.around (m : Nat) (e : Int) : Interval :=
  let below := if m = 0x10_0000_0000_0000 ∧ -1074 < e then 1 else 2
  let stretch := if 2 ≤ e then 1 <<< (e - 2).toNat else 1
  { value := 4 * m * stretch
    lower := (4 * m - below) * stretch
    upper := (4 * m + 2) * stretch
    scale := if 2 ≤ e then 1 else 1 <<< (2 - e).toNat
    closed := m % 2 == 0 }

/-- Whether `num / den` lies in the interval. -/
def Interval.holds (i : Interval) (num den : Nat) : Bool :=
  let x := num * i.scale
  if i.closed then i.lower * den ≤ x && x ≤ i.upper * den
  else i.lower * den < x && x < i.upper * den

/-- The least `p` with `value / scale < 10^p`. -/
def Interval.magnitude (i : Interval) : Int :=
  let a := width i.value
  let b := width i.scale
  if i.scale * tenPow (a - b) ≤ i.value * tenPow (b - a) then (a : Int) - b + 1 else (a : Int) - b

/-- The nearest decimal with `n` digits in the interval, if there is one. -/
def Interval.onGrid? (i : Interval) (tie : Tie) (n : Nat) : Option Decimal :=
  let k := i.magnitude - n
  let up := tenPow (-k).toNat
  let down := tenPow k.toNat
  let num := i.value * up
  let den := i.scale * down
  let d := num / den
  let low := i.holds (d * down) up
  let high := i.holds ((d + 1) * down) up
  if low && high then some ⟨roundQuotient tie num den, k⟩
  else if low then some ⟨d, k⟩
  else if high then some ⟨d + 1, k⟩
  else none

def trimZeros : (fuel : Nat) → Decimal → Decimal
  | 0, d => d
  | n + 1, d => if d.digits % 10 = 0 then trimZeros n ⟨d.digits / 10, d.exponent + 1⟩ else d

/-- The decimal with the fewest digits that reads back as `m * 2^e`, for `0 < m`. -/
def shortest (tie : Tie) (m : Nat) (e : Int) : Decimal :=
  let i := Interval.around m e
  let found := (List.range 16).findSome? fun n => i.onGrid? tie (n + 1)
  trimZeros 17 (found.getD ((i.onGrid? tie 17).getD ⟨m, 0⟩))

/-! ## Layouts -/

/-- How a number is written. -/
structure Layout where
  /-- The exponents of the leading digit for which there is no exponent part; always if `none`. -/
  positional : Option (Int × Int)
  /-- Whether a whole number written without an exponent part gets a zero behind the point. -/
  pointZero : Bool
  /-- The sign written before a positive exponent. -/
  exponentPlus : String
  tie : Tie
  nan : String
  infinity : String

/-- Without an exponent part and without a point in whole numbers. -/
def Layout.plain : Layout := ⟨none, false, "", .up, "NaN", "inf"⟩

/-- Like `plain` from one ten-thousandth up to below `10^16`, with a point in whole numbers. -/
def Layout.pointed : Layout := ⟨some (-4, 15), true, "", .up, "NaN", "inf"⟩

/-- Without an exponent part and with a point in whole numbers. -/
def Layout.settings : Layout := ⟨none, true, "", .up, "nan", "inf"⟩

def Layout.document : Layout := ⟨some (-5, 15), true, "+", .toEven, "NaN", "inf"⟩

def positionalText (pointZero : Bool) (d : Decimal) : List Char :=
  let ds := Nat.toDigits 10 d.digits
  if 0 ≤ d.exponent then
    ds ++ List.replicate d.exponent.toNat '0' ++ (if pointZero then ['.', '0'] else [])
  else
    let places := (-d.exponent).toNat
    let filled := List.replicate (places + 1 - ds.length) '0' ++ ds
    let whole := filled.length - places
    filled.take whole ++ '.' :: filled.drop whole

/-- A positive decimal with one digit before the point and an exponent part. -/
def scientificText (plus : String) (d : Decimal) : List Char :=
  let ds := Nat.toDigits 10 d.digits
  let e := d.leadingExponent
  let mantissa := match ds with
    | [] => []
    | [c] => [c]
    | c :: rest => c :: '.' :: rest
  let sign := if 0 ≤ e then plus.toList else ['-']
  mantissa ++ 'e' :: sign ++ Nat.toDigits 10 e.natAbs

def Layout.decimalText (l : Layout) (d : Decimal) : List Char :=
  match l.positional with
  | none => positionalText l.pointZero d
  | some (lo, hi) =>
    let e := d.leadingExponent
    if lo ≤ e ∧ e ≤ hi then positionalText l.pointZero d else scientificText l.exponentPlus d

def signed (negative : Bool) (text : List Char) : List Char :=
  if negative then '-' :: text else text

/-- A binary64 number as text. -/
def Layout.text (l : Layout) (x : Float) : String :=
  match Binary64.decode x with
  | .nan => l.nan
  | .infinite negative => String.ofList (signed negative l.infinity.toList)
  | .finite negative m e =>
    let body :=
      if m = 0 then (if l.pointZero then ['0', '.', '0'] else ['0'])
      else l.decimalText (shortest l.tie m e)
    String.ofList (signed negative body)

/-- `m * 2^e` in units of `10^-places`, a tie going to the even neighbour. -/
def roundPlaces (places m : Nat) (e : Int) : Nat :=
  roundQuotient .toEven ((m * tenPow places) <<< e.toNat) (1 <<< (-e).toNat)

/-- A binary64 number with exactly `places` digits behind the point. -/
def fixedText (places : Nat) (x : Float) : String :=
  match Binary64.decode x with
  | .nan => "NaN"
  | .infinite negative => String.ofList (signed negative "inf".toList)
  | .finite negative m e =>
    let units := roundPlaces places m e
    let ds := Nat.toDigits 10 units
    let filled := List.replicate (places + 1 - ds.length) '0' ++ ds
    let whole := filled.length - places
    String.ofList (signed negative (filled.take whole ++ '.' :: filled.drop whole))

end Decimal
end AdaptiveShaper
