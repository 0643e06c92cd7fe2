import ValuePaths.Number.Binary

/-!
# Reading decimal floating-point literals

The accepted texts: an optional sign, then either one of the words `inf`, `infinity`
and `nan` in any case, or digits with an optional point (at least one digit on either
side of it), optionally followed by `e` or `E`, an optional sign and at least one
digit.  Nothing may surround the number.  The value is rounded once, to nearest, into
the binary format; numbers too large for the format become infinite and numbers too
small become zero.

## Main definitions

* `FloatFault` — why a text is not a float, with its standard wording.
* `Literal` — the parts of an accepted text.
* `BinaryFormat.read` — the bits of the value a text stands for.
-/

namespace ValuePaths

/-- Why a text is not a floating-point literal. -/
inductive FloatFault where
  | empty
  | invalid
  deriving DecidableEq, Repr, Inhabited

/-- The standard wording of a float fault. -/
def FloatFault.message : FloatFault → String
  | .empty => "cannot parse float from empty string"
  | .invalid => "invalid float literal"

/-- What an accepted text stands for, before rounding. -/
inductive Literal where
  /-- `digits * 10 ^ exponent`, with the number of significant digits. -/
  | decimal (digits : Nat) (exponent : Int)
  | infinity
  | nan
  deriving DecidableEq, Repr

namespace Literal

/-- Splits off the leading decimal digits. -/
def digitRun (cs : List Char) : List Char × List Char :=
  (cs.takeWhile Char.isDigit, cs.dropWhile Char.isDigit)

/-- The number that a run of decimal digits spells. -/
def digitsValue (ds : List Char) : Nat :=
  ds.foldl (fun acc c => acc * 10 + (c.toNat - '0'.toNat)) 0

/-- Reads the optional exponent part, which must end the text. -/
def exponentPart : List Char → Option Int
  | [] => some 0
  | c :: rest =>
    if c = 'e' ∨ c = 'E' then
      let (negative, body) := match rest with
        | '+' :: r => (false, r)
        | '-' :: r => (true, r)
        | r => (false, r)
      let (ds, after) := digitRun body
      if ds.isEmpty || !after.isEmpty then none
      else
        let n : Int := digitsValue ds
        some (if negative then -n else n)
    else none

/-- Reads digits with an optional point and an optional exponent. -/
def number (cs : List Char) : Option Literal :=
  let (whole, rest) := digitRun cs
  let (fraction, rest) := match rest with
    | '.' :: r => digitRun r
    | r => ([], r)
  if whole.isEmpty && fraction.isEmpty then none
  else
    match exponentPart rest with
    | none => none
    | some e => some (.decimal (digitsValue (whole ++ fraction)) (e - fraction.length))

/-- Reads the words for the special values, in any case. -/
def special (cs : List Char) : Option Literal :=
  match (String.ofList cs).toLower with
  | "inf" | "infinity" => some .infinity
  | "nan" => some .nan
  | _ => none

end Literal

/-- Reads a literal: its sign and what it stands for. -/
def Literal.read (s : String) : Except FloatFault (Bool × Literal) :=
  match s.toList with
  | [] => .error .empty
  | c :: rest =>
    let (negative, body) :=
      if c = '-' then (true, rest) else if c = '+' then (false, rest) else (false, c :: rest)
    if body.isEmpty then .error .invalid
    else
      match Literal.number body <|> Literal.special body with
      | some lit => .ok (negative, lit)
      | none => .error .invalid

namespace BinaryFormat

variable (f : BinaryFormat)

/-- The bits of the value `digits * 10 ^ exponent`, rounded to nearest.  Exponents far
outside the range of the format decide the result without computing the power: a value
of at least `2 ^ (bias + 1)` is infinite, and one below half the least subnormal is zero. -/
def ofDecimal (negative : Bool) (digits : Nat) (exponent : Int) : Nat :=
  let sign := if negative then f.signBit else 0
  let width : Int := (Nat.toDigits 10 digits).length
  if digits = 0 then sign
  -- `10 ^ (width - 1 + exponent) ≤ value`, and `2 ^ x ≤ 10 ^ x`
  else if width - 1 + exponent > (f.bias : Int) + 1 then sign + f.infinity
  -- `value < 10 ^ (width + exponent) ≤ 2 ^ (width + exponent)` when that is negative
  else if width + exponent < 1 - (f.bias : Int) - f.fractionBits - 1 then sign
  else if exponent ≥ 0 then f.roundSigned negative (digits * Nat.pow 10 exponent.toNat) 1
  else f.roundSigned negative digits (Nat.pow 10 (-exponent).toNat)

/-- The bits of the value a literal stands for. -/
def ofLiteral (negative : Bool) : Literal → Nat
  | .decimal digits exponent => f.ofDecimal negative digits exponent
  | .infinity => (if negative then f.signBit else 0) + f.infinity
  | .nan => (if negative then f.signBit else 0) + f.nan

/-- Reads a floating-point literal into the bits of the format. -/
def read (s : String) : Except FloatFault Nat :=
  (Literal.read s).map fun (negative, lit) => f.ofLiteral negative lit

end BinaryFormat

end ValuePaths
