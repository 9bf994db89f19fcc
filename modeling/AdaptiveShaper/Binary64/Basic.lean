/-!
# Binary64 numbers taken apart

What a `Float` stands for, read off its bits: a sign with a mantissa and a power of two, an
infinity, or no number.
-/

namespace AdaptiveShaper
namespace Binary64

/-- What a binary64 number stands for; a finite one is `±mantissa * 2^exponent`. -/
inductive Value where
  | nan
  | infinite (negative : Bool)
  | finite (negative : Bool) (mantissa : Nat) (exponent : Int)
  deriving DecidableEq

/-- The value encoded by 64 bits: sign, 11 bits of exponent, 52 bits of mantissa. -/
def decodeBits (bits : Nat) : Value :=
  let negative := decide (0x8000_0000_0000_0000 ≤ bits)
  let e : Nat := bits / 0x10_0000_0000_0000 % 0x800
  let f : Nat := bits % 0x10_0000_0000_0000
  if e = 0x7ff then if f = 0 then .infinite negative else .nan
  else if e = 0 then .finite negative f (-1074)
  else .finite negative (f + 0x10_0000_0000_0000) (Int.ofNat e - 1075)

/-- The value of a binary64 number. -/
def decode (x : Float) : Value := decodeBits x.toBits.toNat

open Float.Model in
/-- Whether the bits are those of a number; NaN has only one of its bit patterns among numbers. -/
instance validDecidable (spec : Format) (b : BitVec spec.numBits) : Decidable (spec.Valid b) :=
  decidable_of_iff (UnpackedFloat.unpackExponent b = -BitVec.ofNat _ 1 →
    UnpackedFloat.unpackMantissa b ≠ BitVec.ofNat _ 0 →
    b = UnpackedFloat.packedNaN spec) ⟨.mk, Format.Valid.eq_packedNaN⟩

/-- A binary64 number with all its 64 bits. There is one NaN among the values of `Float`; among words
NaN has two signs and many payloads. -/
structure Word where
  bits : UInt64
  deriving DecidableEq

namespace Word

def ofFloat (x : Float) : Word := ⟨x.toBits⟩

/-- The number that a word stands for, the same one for all words of NaN. -/
def toFloat (w : Word) : Float :=
  if h : Float.Model.Format.binary64.Valid w.bits.toBitVec then .ofModel ⟨w.bits, h⟩
  else 0.0 / 0.0

@[simp] theorem toFloat_ofFloat (x : Float) : (ofFloat x).toFloat = x :=
  dif_pos x.toModel.valid

/-- Places words by sign and magnitude: negative numbers, `-0`, `+0`, positive numbers, with NaN
beyond the infinity of its sign. -/
def key (w : Word) : Int :=
  if w.bits.toNat < 0x8000_0000_0000_0000 then w.bits.toNat
  else 0x8000_0000_0000_0000 - (w.bits.toNat : Int) - 1

theorem eq_of_key_eq {v w : Word} (h : v.key = w.key) : v = w := by
  have hbits : v.bits.toNat = w.bits.toNat := by
    unfold key at h
    split at h
    · split at h <;> omega
    · split at h <;> omega
  cases v
  cases w
  exact congrArg Word.mk (UInt64.toNat_inj.mp hbits)

instance : LE Word := ⟨fun v w => v.key ≤ w.key⟩

instance : DecidableLE Word := fun v w => inferInstanceAs (Decidable (v.key ≤ w.key))

instance : Max Word := .leftLeaningOfLE Word

instance : Std.IsLinearOrder Word where
  le_refl v := Int.le_refl v.key
  le_trans _ _ _ := Int.le_trans
  le_antisymm _ _ h h' := eq_of_key_eq (Int.le_antisymm h h')
  le_total v w := Int.le_total v.key w.key

end Word

/-- `mantissa * 2^exponent` rounded to a whole number, a half upwards. -/
def roundHalfUp (mantissa : Nat) (exponent : Int) : Nat :=
  if 0 ≤ exponent then mantissa <<< exponent.toNat
  else
    let k := (-exponent).toNat
    (2 * mantissa + (1 <<< k)) >>> (k + 1)

/-- The nearest whole number, a half away from zero, held to the range `[0, 2^64 - 1]`; zero if
there is no number. -/
def toWhole (x : Float) : Nat :=
  match decode x with
  | .nan => 0
  | .infinite negative => if negative then 0 else 0xffff_ffff_ffff_ffff
  | .finite negative m e => if negative then 0 else min (roundHalfUp m e) 0xffff_ffff_ffff_ffff

theorem toWhole_le (x : Float) : toWhole x ≤ 0xffff_ffff_ffff_ffff := by
  unfold toWhole
  split
  · decide
  · split <;> decide
  · split
    · decide
    · omega

/-- The binary64 number nearest to `±mantissa * 2^exponent`, a tie going to the even mantissa. -/
def nearest (negative : Bool) (mantissa : Nat) (exponent : Int) : Float :=
  let sign : Float.Model.UnpackedFloat.Sign := if negative then .negative else .positive
  if mantissa = 0 then .ofModel (.pack (.zero sign))
  else .ofModel (.pack (.round .binary64 sign mantissa exponent))

/-! ## Cube roots

The argument is written as a whole number of at least 171 bits times a power of eight; the whole
cube root then has at least 57 bits, and one more bit tells whether it is exact. A cube root of a
53-bit number is never halfway between two 53-bit numbers, so that bit decides the rounding.
-/

/-- The greatest `r + d` with `d < 2^bits` whose cube is at most `n`, if `r` is one such number. -/
def cubeRootFrom (n : Nat) : (bits r : Nat) → Nat
  | 0, r => r
  | k + 1, r =>
    let s := r + (1 <<< k)
    if s * s * s ≤ n then cubeRootFrom n k s else cubeRootFrom n k r

/-- The greatest number whose cube is at most `n`. -/
def cubeRootFloor (n : Nat) : Nat := cubeRootFrom n (n.log2 / 3 + 1) 0

/-- The binary64 number nearest to the real cube root. -/
def cubeRoot (x : Float) : Float :=
  match decode x with
  | .nan => x
  | .infinite _ => x
  | .finite negative m e =>
    if m = 0 then x
    else
      let t := (e - 170) / 3
      let n := m <<< (e - 3 * t).toNat
      let r := cubeRootFloor n
      let rest := if r * r * r = n then 0 else 1
      nearest negative (2 * r + rest) (t - 1)

end Binary64
end AdaptiveShaper
