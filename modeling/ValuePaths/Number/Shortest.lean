import ValuePaths.Number.Decimal

/-!
# Shortest decimal text of a binary float

A finite float stands for the interval of reals that round to it: from halfway to the
value below to halfway to the value above, ends included exactly when its significand is
even.  Its text uses the fewest significant digits of any decimal in that interval, and
of two such decimals the nearer one; when both are equally near, the larger.

The search is the definition turned into a loop: for one digit, two digits, and so on,
take the grid of decimals with that many digits at the scale of the value, and test the
two grid points next to the value.  If a grid has any point in the interval, one of those
two is in it, so the first grid with a hit has the fewest digits.

Layout: values from `10 ^ -4` up to but not including `10 ^ 16`, and zero, are written
positionally with at least one digit after the point (`1.0`, `0.001`); all others as
digits and a decimal exponent (`1e16`, `1.5e-7`).  The specials are `NaN`, `inf` and
`-inf`, and zero keeps its sign.

## Main definitions

* `Decimal` — `digits * 10 ^ exponent`.
* `BinaryFormat.readsBack` — whether a decimal lies in the interval of a float.
* `BinaryFormat.shortest` — the selected decimal.
* `BinaryFormat.render` — the text of a float.
-/

namespace ValuePaths

/-- The number `digits * 10 ^ exponent`. -/
structure Decimal where
  digits : Nat
  exponent : Int
  deriving DecidableEq, Repr

/-- Moves trailing zeros of the digits into the exponent. -/
def Decimal.normalize (d : Decimal) : Nat → Decimal
  | 0 => d
  | fuel + 1 =>
    if d.digits != 0 && d.digits % 10 == 0 then
      Decimal.normalize ⟨d.digits / 10, d.exponent + 1⟩ fuel
    else d

namespace BinaryFormat

variable (f : BinaryFormat)

/-- Compares `a * 10 ^ i` with `b * 2 ^ j`, exactly. -/
def cmpScaled (a : Nat) (i : Int) (b : Nat) (j : Int) : Ordering :=
  compare (a * Nat.pow 10 i.toNat * Nat.pow 2 (-j).toNat) (b * Nat.pow 2 j.toNat * Nat.pow 10 (-i).toNat)

/-- Whether a decimal lies among the reals that round to the finite value `x`. -/
def Finite.readsBack (x : Finite) (d : Decimal) : Bool :=
  let lo := if x.narrowBelow then 4 * x.m - 1 else 4 * x.m - 2
  let hi := 4 * x.m + 2
  let inclusive := x.m % 2 == 0
  let cl := cmpScaled d.digits d.exponent lo (x.q - 2)
  let ch := cmpScaled d.digits d.exponent hi (x.q - 2)
  (cl == .gt || (inclusive && cl == .eq)) && (ch == .lt || (inclusive && ch == .eq))

/-- The least `k` with `m * 2 ^ q < 10 ^ k`, for a non-zero value: an estimate from the
binary logarithm, then corrected in either direction. -/
def decimalScale (x : Finite) : Int :=
  -- `log10 2` is a little above `0.30102`
  let bitsAbove : Int := (x.m.log2 : Int) + x.q + 1
  let estimate : Int := (bitsAbove * 30103) / 100000
  let below (k : Int) : Bool := cmpScaled 1 k x.m x.q == .gt
  -- the estimate is off by at most two
  let candidates := (List.range 6).map fun (i : Nat) => estimate - 2 + (i : Int)
  (candidates.find? below).getD (estimate + 4)

/-- The value's two neighbours on the grid of `10 ^ g`: `⌊x / 10 ^ g⌋` and one more. -/
def neighbours (x : Finite) (g : Int) : Nat × Nat :=
  let lowDigits :=
    (x.m * Nat.pow 2 x.q.toNat * Nat.pow 10 (-g).toNat) / (Nat.pow 2 (-x.q).toNat * Nat.pow 10 g.toNat)
  (lowDigits, lowDigits + 1)

/-- The nearer of two grid points to the value, the upper one on a tie. -/
def nearer (x : Finite) (g : Int) (lo hi : Nat) : Nat :=
  -- compare twice the value with the sum of the two points
  match cmpScaled (lo + hi) g (2 * x.m) x.q with
  | .gt => lo
  | _ => hi

/-- The decimal with the fewest digits in the interval of a non-zero finite value, found on
the grid of `n` digits for `n` from one to `limit`. -/
def search (x : Finite) (scale : Int) : Nat → Nat → Option Decimal
  | 0, _ => none
  | fuel + 1, n =>
    let g := scale - n
    let (lo, hi) := neighbours x g
    let loHit := lo != 0 && x.readsBack ⟨lo, g⟩
    let hiHit := x.readsBack ⟨hi, g⟩
    if loHit && hiHit then some ⟨nearer x g lo hi, g⟩
    else if loHit then some ⟨lo, g⟩
    else if hiHit then some ⟨hi, g⟩
    else search x scale fuel (n + 1)

/-- The exact decimal value of `m * 2 ^ q`. -/
def Finite.exact (x : Finite) : Decimal :=
  if x.q ≥ 0 then ⟨x.m * Nat.pow 2 x.q.toNat, 0⟩
  else ⟨x.m * Nat.pow 5 (-x.q).toNat, x.q⟩

/-- The shortest decimal of a non-zero finite value; the exact value if seventeen digits
do not suffice, which no value of the formats in use needs. -/
def shortest (x : Finite) : Decimal :=
  let d := (search x (decimalScale x) 17 1).getD x.exact
  d.normalize (Nat.toDigits 10 d.digits).length

/-! ## Layout -/

/-- The decimal digits of a natural number. -/
def digitString (n : Nat) : String := String.ofList (Nat.toDigits 10 n)

/-- Writes `digits * 10 ^ exponent` positionally, with at least one digit after the point. -/
def positional (d : Decimal) : String :=
  let ds := digitString d.digits
  let width : Int := ds.length
  if d.exponent ≥ 0 then
    ds ++ String.ofList (List.replicate d.exponent.toNat '0') ++ ".0"
  else if width + d.exponent > 0 then
    let cut := (width + d.exponent).toNat
    String.ofList (ds.toList.take cut) ++ "." ++ String.ofList (ds.toList.drop cut)
  else
    "0." ++ String.ofList (List.replicate (-(width + d.exponent)).toNat '0') ++ ds

/-- Writes `digits * 10 ^ exponent` as digits with a point after the first, then `e` and the
exponent of the leading digit. -/
def scientific (d : Decimal) : String :=
  let ds := (digitString d.digits).toList
  let lead : Int := d.exponent + ds.length - 1
  let mantissa := match ds with
    | [c] => String.singleton c
    | c :: rest => String.singleton c ++ "." ++ String.ofList rest
    | [] => "0"
  mantissa ++ "e" ++ toString lead

/-- The text of the magnitude of finite, non-zero bits. -/
def renderMagnitude (bits : Nat) : String :=
  let d := shortest (f.decode bits)
  let lower := f.ofDecimal false 1 (-4)
  let upper := f.ofDecimal false 1 16
  if lower ≤ bits && bits < upper then positional d else scientific d

/-- The text of a float given by its bits. -/
def render (bits : Nat) : String :=
  let sign := if f.isNegative bits then "-" else ""
  let m := f.magnitude bits
  if f.isNaN bits then "NaN"
  else if f.isInfinite bits then sign ++ "inf"
  else if m == 0 then sign ++ "0.0"
  else sign ++ f.renderMagnitude m

end BinaryFormat

end ValuePaths
