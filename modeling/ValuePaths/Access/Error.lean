import ValuePaths.Path.Basic
import ValuePaths.Registry.Convert

/-!
# Access errors

Everything that can go wrong while a path is resolved against a type or applied to a
value, each cause with the data that explains it, and the one function that words them.
An access error adds the path and, when one element of it is to blame, that element's
position.

## Main definitions

* `StepKind` — how a step reaches its element: by field, index, member, key or name.
* `Operation` — what a container was asked to do and cannot.
* `Fault` — the cause of a failed access, with `Fault.message`.
* `AccessError` — a fault with its path and step, with `AccessError.message`.
-/

namespace ValuePaths

/-- How a step reaches its element. -/
inductive StepKind where
  /-- A named field of a record. -/
  | record
  /-- An index into a growable list. -/
  | list
  /-- A member of a set. -/
  | set
  /-- A key of a map. -/
  | map
  /-- An index into an array. -/
  | array
  /-- A key of a text table. -/
  | properties
  /-- The element count of a container. -/
  | length
  deriving DecidableEq, Repr, Inhabited

/-- The word for a step kind in messages. -/
def StepKind.word : StepKind → String
  | .record => "record"
  | .list => "list"
  | .set => "set"
  | .map => "map"
  | .array => "array"
  | .properties => "properties"
  | .length => "length"

/-- What a container was asked to do and cannot. -/
inductive Operation where
  /-- Going past the element count, which is no value. -/
  | throughLength (name : String)
  /-- Subscripting a record. -/
  | subscript (raw : String)
  /-- Appending more elements than the padding limit allows. -/
  | grow (length limit : Nat)
  /-- Indexing an array beyond its capacity. -/
  | index (i length : Nat)
  /-- Going into an element that cannot be reached for writing. -/
  | navigateInto (key : String)
  /-- Assigning the element count. -/
  | assignment
  /-- Storing an element where the container cannot hold it. -/
  | write (key : String)
  /-- Going past an element whose shape is unknown before the value is seen. -/
  | throughUntyped
  /-- Filling an array with the wrong number of values. -/
  | fill (count slots : Nat)
  deriving DecidableEq, Repr, Inhabited

/-- The wording of an operation. -/
def Operation.describe : Operation → String
  | .throughLength name => s!"navigating through `{name}`"
  | .subscript raw => s!"subscript `[{raw}]`"
  | .grow length limit => s!"growing a list of length {length} past {limit} new elements"
  | .index i length => s!"index {i} with length {length}"
  | .navigateInto key => s!"navigating into `{key}`"
  | .assignment => "assignment"
  | .write key => s!"writing `{key}`"
  | .throughUntyped => "navigating through untyped elements"
  | .fill count slots => s!"assigning {count} values to {slots} slots"

/-- Why a missing value could not be created. -/
inductive CreationReason where
  | unregistered
  | noDefault
  | disabled
  deriving DecidableEq, Repr, Inhabited

/-- The wording of a creation failure. -/
def CreationReason.describe : CreationReason → String
  | .unregistered => "type is not registered"
  | .noDefault => "no default constructor registered"
  | .disabled => "creating missing values is disabled"

/-- The cause of a failed access. -/
inductive Fault where
  | malformed (e : PathError)
  /-- The shape has no property of that name. -/
  | noProperty (ty : Shape) (name : String)
  /-- The field cannot be written. -/
  | readOnly (ty : Shape) (name : String)
  /-- The field cannot be read, so it cannot be gone through. -/
  | writeOnly (ty : Shape) (name : String)
  | conversion (e : ConversionError)
  | creation (ty : Shape) (reason : CreationReason)
  | unsupported (kind : StepKind) (ty : Shape) (operation : Operation)
  /-- A container declares no element shape, and undeclared elements are refused. -/
  | undeclared (ty : Shape)
  /-- A compiled path was applied to a value of another shape. -/
  | mismatchedRoot (expected actual : Shape)
  deriving DecidableEq, Repr, Inhabited

/-- The wording of a fault. -/
def Fault.message : Fault → String
  | .malformed e => e.message
  | .noProperty ty name => s!"`{ty.path}` has no property `{name}`"
  | .readOnly ty name => s!"property `{name}` of `{ty.path}` is read-only"
  | .writeOnly ty name => s!"property `{name}` of `{ty.path}` is write-only"
  | .conversion e => e.message
  | .creation ty reason => s!"cannot create a value of `{ty.path}`: {reason.describe}"
  | .unsupported kind ty op => s!"{kind.word} `{ty.path}` does not support {op.describe}"
  | .undeclared ty => s!"`{ty.path}` is declared without an element type"
  | .mismatchedRoot expected actual =>
    s!"descriptor compiled for `{expected.path}` applied to `{actual.path}`"

/-- A conversion fault. -/
def Fault.convert (raw : String) (target : Shape) (reason : Reason) : Fault :=
  .conversion ⟨raw, some target, reason⟩

/-- A failed access: the cause, the path, and the position of the element to blame. -/
structure AccessError where
  fault : Fault
  path : String
  step : Option Nat
  deriving DecidableEq, Repr, Inhabited

/-- The full description of a failed access. -/
def AccessError.message (e : AccessError) : String :=
  match e.step with
  | some i => s!"failed to access `{e.path}` at element {i}: {e.fault.message}"
  | none => s!"failed to access `{e.path}`: {e.fault.message}"

/-- The error of a path that does not parse. -/
def AccessError.ofPath (e : PathError) : AccessError := ⟨.malformed e, e.source, none⟩

end ValuePaths
