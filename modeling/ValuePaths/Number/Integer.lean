import ValuePaths.Shape.Basic

/-!
# Reading integers

Integers are read from text in a given radix: an optional sign, then at least one
digit, nothing else.  A `+` is always allowed, a `-` only for types with negative
values, and blanks or digit separators are refused.

Digits are read from the left.  The first character that is not a digit stops the
reading with `invalidDigit`, unless the number read so far, shifted by one place, has
already left the range of the type: then the type is too small for it.  A string that
is only a sign has no digits at all, and is refused like a stray character.

## Main definitions

* `IntFault` — why a text is not an integer of the type, with its standard wording.
* `IntType.read` — reads an integer of a type in radix ten or sixteen.
-/

namespace ValuePaths

/-- Why a text is not an integer of a given type. -/
inductive IntFault where
  | empty
  | invalidDigit
  | tooLarge
  | tooSmall
  deriving DecidableEq, Repr, Inhabited

/-- The standard wording of an integer fault. -/
def IntFault.message : IntFault → String
  | .empty => "cannot parse integer from empty string"
  | .invalidDigit => "invalid digit found in string"
  | .tooLarge => "number too large to fit in target type"
  | .tooSmall => "number too small to fit in target type"

/-- The value of a digit in a radix up to sixteen, with letters in either case. -/
def digitValue (radix : Nat) (c : Char) : Option Nat :=
  let d :=
    if '0' ≤ c ∧ c ≤ '9' then some (c.toNat - '0'.toNat)
    else if 'a' ≤ c ∧ c ≤ 'f' then some (c.toNat - 'a'.toNat + 10)
    else if 'A' ≤ c ∧ c ≤ 'F' then some (c.toNat - 'A'.toNat + 10)
    else none
  d.filter (· < radix)

namespace IntType

/-- Whether an integer lies in the range of the type. -/
def fits (t : IntType) (n : Int) : Bool := decide (t.min ≤ n ∧ n ≤ t.max)

/-- Appends digits to `acc`, moving away from zero in the direction of the sign. -/
def readDigits (t : IntType) (radix : Nat) (negative : Bool) :
    Int → List Char → Except IntFault Int
  | acc, [] => .ok acc
  | acc, c :: cs =>
    match digitValue radix c with
    | none => .error .invalidDigit
    | some d =>
      let next := if negative then acc * radix - d else acc * radix + d
      if t.fits next then readDigits t radix negative next cs
      else .error (if negative then .tooSmall else .tooLarge)

/-- Reads an integer of the type in the given radix. -/
def readRadix (t : IntType) (radix : Nat) (s : String) : Except IntFault Int :=
  match s.toList with
  | [] => .error .empty
  | ['+'] | ['-'] => .error .invalidDigit
  | '+' :: ds => t.readDigits radix false 0 ds
  | '-' :: ds => if t.signed then t.readDigits radix true 0 ds else t.readDigits radix false 0 ('-' :: ds)
  | ds => t.readDigits radix false 0 ds

/-- Reads a decimal integer of the type. -/
def read (t : IntType) (s : String) : Except IntFault Int := t.readRadix 10 s

end IntType

end ValuePaths
