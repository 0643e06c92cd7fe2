import ValuePaths.Value.Basic
import ValuePaths.Number.Integer
import ValuePaths.Number.Decimal

/-!
# Reading values from text

A converter turns text into a value, or says in its own words why it cannot.  Every
scalar has its standard reading: `true` and `false`; exactly one character; an integer in
range; a decimal float rounded to the format; any text.  A program can install a converter
of its own for any shape, replacing the one the shape had.

A failed reading has a reason, and a conversion error puts the rejected text, the
target and the reason together in one message.

## Main definitions

* `Reason` — why a text was not converted, with `Reason.message`.
* `ConversionError` — a failed conversion, with `ConversionError.message`.
* `Scalar.read` — the standard reading of a scalar.
* `Converter` — a reading that a registry holds for a shape, and `Converter.standard`.
-/

namespace ValuePaths

/-- Why a text was not converted. -/
inductive Reason where
  /-- The text does not read as a value of the target, for the reason its reading gives. -/
  | unreadable (text : String)
  | unregistered
  | noConverter
  /-- A container refused a value of another shape. -/
  | doesNotFit (s : Shape)
  /-- A target that is no collection takes exactly one text. -/
  | singleExpected (count : Nat)
  /-- A read found a value of another shape than the one asked for. -/
  | foundOther (s : Shape)
  deriving DecidableEq, Repr, Inhabited

/-- The wording of a reason. -/
def Reason.message : Reason → String
  | .unreadable text => text
  | .unregistered => "type is not registered"
  | .noConverter => "no converter registered"
  | .doesNotFit s => s!"value of type `{s.path}` does not fit"
  | .singleExpected n => s!"expected a single value, got {n}"
  | .foundOther s => s!"found a value of type `{s.path}`"

/-- A text that was not converted to a target.  The target is unknown when the shape asked
for is not registered. -/
structure ConversionError where
  raw : String
  target : Option Shape
  reason : Reason
  deriving DecidableEq, Repr, Inhabited

/-- The name of the target of a conversion. -/
def ConversionError.targetName (e : ConversionError) : String :=
  match e.target with
  | some s => s.path
  | none => "<unregistered>"

/-- The full description of a failed conversion. -/
def ConversionError.message (e : ConversionError) : String :=
  s!"cannot convert `{e.raw}` to `{e.targetName}`: {e.reason.message}"

namespace IntType

/-- Reads an integer of the type into a value. -/
def readValue (t : IntType) (raw : String) : Except String Value :=
  match t.read raw with
  | .ok n => .ok (.int t n)
  | .error f => .error f.message

end IntType

/-- Reads `true` or `false`. -/
def readBool (raw : String) : Except String Bool :=
  match raw with
  | "true" => .ok true
  | "false" => .ok false
  | _ => .error "provided string was not `true` or `false`"

/-- The standard reading of a scalar. -/
def Scalar.read : Scalar → String → Except String Value
  | .bool, raw => .bool <$> readBool raw
  | .char, raw =>
    match raw.toList with
    | [] => .error "cannot parse char from empty string"
    | [c] => .ok (.char c)
    | _ => .error "too many characters in string"
  | .int t, raw => t.readValue raw
  | .f32, raw =>
    match BinaryFormat.single.read raw with
    | .ok bits => .ok (.f32 (UInt32.ofNat bits))
    | .error f => .error f.message
  | .f64, raw =>
    match BinaryFormat.double.read raw with
    | .ok bits => .ok (.f64 (UInt64.ofNat bits))
    | .error f => .error f.message
  | .string, raw => .ok (.string raw)

/-- A converter that a registry holds for a shape: a reading of text into a value, or the
reason, in its own words, that the text is refused. -/
structure Converter where
  read : String → Except String Value

/-- The standard reading of a scalar, which registering the scalar installs. -/
def Converter.standard (sc : Scalar) : Converter := ⟨sc.read⟩

end ValuePaths
