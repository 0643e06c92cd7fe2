/-!
# Binary floating-point formats

A binary interchange format stores a sign, a biased exponent and the fraction of a
significand.  This module reads those fields off the bits, and goes the other way:
it rounds an exact non-negative rational to the nearest value of the format, with a
tie going to the even significand, overflowing to infinity and underflowing through
the subnormals to zero.  All arithmetic is on natural numbers, so every step is exact.

## Main definitions

* `BinaryFormat` — the widths of the fields; `single` and `double` are the two in use.
* `BinaryFormat.decode` — a finite value as `m * 2 ^ q`.
* `BinaryFormat.round` — the bits of the value nearest to `num / den`.
-/

namespace ValuePaths

/-- The field widths of a binary floating-point format. -/
structure BinaryFormat where
  /-- Bits of the stored fraction. -/
  fractionBits : Nat
  /-- Bits of the biased exponent. -/
  exponentBits : Nat
  deriving DecidableEq, Repr

namespace BinaryFormat

/-- Thirty-two bits: eight of exponent, twenty-three of fraction. -/
def single : BinaryFormat := ⟨23, 8⟩

/-- Sixty-four bits: eleven of exponent, fifty-two of fraction. -/
def double : BinaryFormat := ⟨52, 11⟩

variable (f : BinaryFormat)

/-- The exponent bias. -/
def bias : Nat := Nat.pow 2 (f.exponentBits - 1) - 1

/-- The exponent field that marks infinities and NaNs. -/
def topField : Nat := Nat.pow 2 f.exponentBits - 1

/-- The sign bit. -/
def signBit : Nat := Nat.pow 2 (f.fractionBits + f.exponentBits)

/-- The bits of positive infinity. -/
def infinity : Nat := f.topField * Nat.pow 2 f.fractionBits

/-- The bits of the quiet NaN. -/
def nan : Nat := f.infinity + Nat.pow 2 (f.fractionBits - 1)

/-- The exponent field of some bits. -/
def exponentField (bits : Nat) : Nat := bits / Nat.pow 2 f.fractionBits % Nat.pow 2 f.exponentBits

/-- The fraction field of some bits. -/
def fractionField (bits : Nat) : Nat := bits % Nat.pow 2 f.fractionBits

/-- Whether the sign bit is set. -/
def isNegative (bits : Nat) : Bool := bits / f.signBit % 2 == 1

/-- The bits with the sign cleared. -/
def magnitude (bits : Nat) : Nat := bits % f.signBit

/-- Whether the bits stand for a NaN. -/
def isNaN (bits : Nat) : Bool :=
  f.exponentField bits == f.topField && f.fractionField bits != 0

/-- Whether the bits stand for an infinity. -/
def isInfinite (bits : Nat) : Bool :=
  f.exponentField bits == f.topField && f.fractionField bits == 0

/-- A finite non-negative value `m * 2 ^ q`.  `narrowBelow` marks a significand that is a
power of two above the least exponent: there the next value down is only half as far
away as the next value up. -/
structure Finite where
  m : Nat
  q : Int
  narrowBelow : Bool
  deriving DecidableEq, Repr

/-- The magnitude of finite bits as `m * 2 ^ q`. -/
def decode (bits : Nat) : Finite :=
  let e := f.exponentField bits
  let frac := f.fractionField bits
  let shift : Int := (f.bias : Int) + f.fractionBits
  if e == 0 then ⟨frac, 1 - shift, false⟩
  else ⟨Nat.pow 2 f.fractionBits + frac, (e : Int) - shift, frac == 0 && e > 1⟩

/-! ## Rounding an exact quotient -/

/-- `num / den` rounded to the nearest natural number, a tie to the even one. -/
def roundHalfEven (num den : Nat) : Nat :=
  let q := num / den
  let r := num % den
  match compare (2 * r) den with
  | .lt => q
  | .gt => q + 1
  | .eq => if q % 2 == 0 then q else q + 1

/-- Compares `a * 2 ^ i` with `b`, exactly. -/
def cmpShifted (a : Nat) (i : Int) (b : Nat) : Ordering :=
  compare (a * Nat.pow 2 i.toNat) (b * Nat.pow 2 (-i).toNat)

/-- The exponent `k` with `2 ^ k ≤ num / den < 2 ^ (k + 1)`, for non-zero `num` and `den`. -/
def binaryExponent (num den : Nat) : Int :=
  let k : Int := (num.log2 : Int) - den.log2
  -- `num / den` lies between `2 ^ (k - 1)` and `2 ^ (k + 1)`
  if cmpShifted den k num == .gt then k - 1 else k

/-- The bits of the non-negative value nearest to `num / den` (`den ≠ 0`).  Values beyond
the largest finite one round to infinity, as the rounding would carry them there. -/
def round (num den : Nat) : Nat :=
  if num = 0 then 0
  else
    let k := binaryExponent num den
    let least : Int := 1 - (f.bias : Int)
    let e := max k least
    -- the unit of the last place is `2 ^ (e - fractionBits)`
    let u := e - f.fractionBits
    let q := roundHalfEven (num * Nat.pow 2 (-u).toNat) (den * Nat.pow 2 u.toNat)
    let bits := (e + f.bias - 1).toNat * Nat.pow 2 f.fractionBits + q
    if bits ≥ f.infinity then f.infinity else bits

/-- The bits of `±(num / den)` rounded to nearest. -/
def roundSigned (negative : Bool) (num den : Nat) : Nat :=
  (if negative then f.signBit else 0) + f.round num den

end BinaryFormat

end ValuePaths
