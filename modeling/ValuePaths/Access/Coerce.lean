import ValuePaths.Access.Context
import ValuePaths.Value.Collection

/-!
# Converting text to values of a shape

A value to assign arrives as text: one text, or several for bulk assignment.  It is
converted for a target shape as follows.

* A converter installed for exactly the target shape always wins over a single text.
* An option converts for its inner shape and is set.
* A list or set is created from the registered default and receives one element per
  text, each converted for the element shape; a single text gives a single element.
* An array takes exactly as many texts as it has slots.
* Any other shape takes exactly one text, through its converter.
* Untyped targets keep the text: one text stays text, several make an untyped list.

Missing values met while writing are created from the registered defaults, unless that is
switched off.

## Main definitions

* `Raw` — the text of a value to assign.
* `Context.coerce` — converts text for a target.
* `Context.instantiate`, `Context.createMissing` — registered defaults.
-/

namespace ValuePaths

variable [Catalogue]

/-- The text of a value to assign: one text, or several for bulk assignment. -/
inductive Raw where
  | one (text : String)
  | many (texts : List String)
  deriving DecidableEq, Repr, Inhabited

namespace Raw

/-- The texts of a value. -/
def items : Raw → List String
  | one t => [t]
  | many ts => ts

/-- The text of a value in messages: several texts joined by commas. -/
def display : Raw → String
  | one t => t
  | many ts => ",".intercalate ts

end Raw

namespace Context

variable (ctx : Context)

/-- The registered default of a shape. -/
def instantiate (s : Shape) : Checked Value :=
  if !ctx.registry.contains s then throw (.creation s .unregistered)
  else match ctx.registry.createDefault s with
    | some v => pure v
    | none => throw (.creation s .noDefault)

/-- A value for a missing element of a target, while writing: the registered default, or
empty text for an untyped element. -/
def createMissing (target : Target) : Checked Value :=
  if !ctx.options.createMissing then throw (.creation target.shape .disabled)
  else match target with
    | .typed s => ctx.instantiate s
    | .untyped => pure (.string "")

/-- Converts one text with the converter of a shape, or says why there is none. -/
def convertOne (raw : String) (s : Shape) : Checked Value :=
  if ctx.registry.hasConverter s then
    match ctx.registry.convert raw s with
    | .ok v => pure v
    | .error e => throw (.conversion e)
  else if !ctx.registry.contains s then throw (.convert raw s .unregistered)
  else throw (.convert raw s .noConverter)

/-- Converts text for a shape. -/
def coerceTo (s : Shape) (r : Raw) : Checked Value :=
  match r, ctx.registry.hasConverter s with
  | .one raw, true => ctx.convertOne raw s
  | _, _ =>
    match s with
    | .option t => do
      let v ← coerceTo t r
      pure (.option t (some v))
    | .list l t => do
      let _ ← ctx.elementTargets (.list l t)
      let _ ← ctx.instantiate (.list l t)
      let items ← r.items.mapM fun x => coerceTo t (.one x)
      pure (.list l t items)
    | .untypedList => do
      let _ ← ctx.elementTargets .untypedList
      let _ ← ctx.instantiate .untypedList
      pure (.untypedList (r.items.map .string))
    | .set l t => do
      let _ ← ctx.elementTargets (.set l t)
      let _ ← ctx.instantiate (.set l t)
      let members ← r.items.mapM fun x => coerceTo t (.one x)
      let (p, members) := Members.build ctx.table l t members
      pure (.set p t members)
    | .array t n => do
      if r.items.length != n then
        throw (.unsupported .array (.array t n) (.fill r.items.length n))
      let _ ← ctx.instantiate (.array t n)
      let items ← r.items.mapM fun x => coerceTo t (.one x)
      pure (.array t items)
    | s =>
      match r with
      | .one raw => ctx.convertOne raw s
      | .many [x] => ctx.convertOne x s
      | .many xs => throw (.convert (",".intercalate xs) s (.singleExpected xs.length))

/-- Converts text for a target: untyped targets keep it. -/
def coerce (target : Target) (r : Raw) : Checked Value :=
  match target, r with
  | .untyped, .one raw => pure (.string raw)
  | .untyped, .many xs => pure (.untypedList (xs.map .string))
  | .typed s, r => ctx.coerceTo s r

end Context

end ValuePaths
