import ValuePaths.Access.Step
import ValuePaths.Value.Debug

/-!
# Reaching one element

How a bound step reads, enters and stores the element it addresses in one container
value.

* **Reading** looks through set `Option` layers of the container and of the element; an
  unset option, a missing element, a write-only field or a key of the wrong kind reads as
  absent.  The element count is computed, not stored.
* **Entering** an element to write below it creates what is missing: list elements up to
  the index (at most `maxListPadding` of them), a map entry under the converted key, and
  every unset `Option` layer of the element, outermost first.  A read-only field may be
  entered only when it is already present.  Sets cannot be entered: their members are
  written whole.
* **Storing** puts a value at the element: into a field, a list slot (appending at the
  end), an array slot, a map entry, a set or a text table.  A container refuses a value
  of another shape than its elements.

Entering and storing hand back the container as it is after the attempt, also when the
attempt fails: what was created before the failure stays.

## Main definitions

* `Value.present` — the value under all set `Option` layers.
* `Context.fill` — sets every unset `Option` layer to a registered default.
* `Step.read`, `Context.descend`, `Context.store` — the three accesses.
-/

namespace ValuePaths

variable [Catalogue]

namespace Value

/-- The value under all `Option` layers, if every layer is set. -/
def present : Value → Option Value
  | option _ none => none
  | option _ (some v) => v.present
  | v => some v

/-- The value under the set `Option` layers. -/
def inner : Value → Value
  | option _ (some v) => v.inner
  | v => v

/-- Replaces the value under the set `Option` layers. -/
def withInner : Value → Value → Value
  | option t (some v), w => option t (some (v.withInner w))
  | _, w => w

/-- The position of a field in a record. -/
def fieldIndex (r : Record) (name : String) : Option Nat :=
  r.fields.findIdx? (·.name == name)

/-- The element a key addresses, as stored. -/
def child? : Value → Key → Option Value
  | record r fields, .field name _ => (fieldIndex r name).bind (fields[·]?)
  | list _ _ items, .index i | untypedList items, .index i | array _ items, .index i => items[i]?
  | map _ _ _ es, .member _ k => Entries.find? k es
  | set _ _ ms, .member _ k => Members.find? k ms
  | properties es, .text k => (Table.find? k es).map .string
  | _, _ => none

/-- Replaces the element a key addresses, where one is stored. -/
def setChild : Value → Key → Value → Value
  | record r fields, .field name _, w =>
    match fieldIndex r name with
    | some i => record r (fields.set i w)
    | none => record r fields
  | list l t items, .index i, w => list l t (items.set i w)
  | untypedList items, .index i, w => untypedList (items.set i w)
  | array t items, .index i, w => array t (items.set i w)
  | map l k v es, .member _ key, w => map l k v (Entries.update key w es)
  | v, _, _ => v

/-- The number of elements of a container. -/
def count? : Value → Option Nat
  | list _ _ items | untypedList items | array _ items | set _ _ items => some items.length
  | map _ _ _ es => some es.length
  | properties es => some es.length
  | _ => none

end Value

/-- What a read finds: a stored value, or an element count computed on the spot. -/
inductive Found where
  | value (v : Value)
  | count (n : Nat)
  deriving Repr, Inhabited

/-- The value a read found; a count is a `usize`. -/
def Found.toValue : Found → Value
  | .value v => v
  | .count n => .int .usize n

/-- Reads the element a step addresses.  Absent elements, unset options, write-only fields
and keys that address nothing read as `none`. -/
def Step.read (step : Step) (container : Value) : Option Found := do
  let c ← container.present
  match step.key with
  | .length => Found.count <$> c.count?
  | .field _ access =>
    if access.readable then Found.value <$> ((c.child? step.key).bind Value.present) else none
  | key => Found.value <$> ((c.child? key).bind Value.present)

/-- The fault of a container that refuses a value of another shape. -/
def Fault.misfit (target : Shape) (v : Value) : Fault :=
  .convert v.debug target (.doesNotFit v.shape)

namespace Context

variable (ctx : Context)

/-- Sets every unset `Option` layer of a value of shape `s` to the registered default of
its inner shape, outermost first.  On failure the layers set so far stay set. -/
def fillAt : Shape → Value → Logged (Value × Except Fault Unit)
  | .option t, .option t' none => do
    match ← (ctx.createMissing (.typed t')).run with
    | .error f => pure (.option t' none, .error f)
    | .ok inner =>
      let (inner, r) ← fillAt t inner
      pure (.option t' (some inner), r)
  | .option t, .option t' (some v) => do
    let (v, r) ← fillAt t v
    pure (.option t' (some v), r)
  | _, v => pure (v, .ok ())

/-- Sets every unset `Option` layer of a value to a registered default. -/
def fill (v : Value) : Logged (Value × Except Fault Unit) := ctx.fillAt v.shape v

/-- Appends missing elements for `target` until a list has `length` elements; fails when
that takes more than `maxListPadding` of them, or when the length overflows a `usize`. -/
def pad (items : List Value) (length : Nat) (ty : Shape) (target : Target) :
    Logged (List Value × Except Fault Unit) := do
  let limit := ctx.options.maxListPadding
  let missing := length - items.length
  if length > IntType.usize.max.toNat || missing > limit then
    pure (items, .error (.unsupported .list ty (.grow items.length limit)))
  else if missing = 0 then pure (items, .ok ())
  else
    match ← (ctx.createMissing target).run with
    | .error f => pure (items, .error f)
    | .ok filler => pure (items ++ List.replicate missing filler, .ok ())

/-- Enters an element of a container for a write below it, creating what is missing, and
fills the element's unset `Option` layers.  The element is then `(c.child? step.key)`. -/
def descend (step : Step) (c : Value) : Logged (Value × Except Fault Unit) := do
  let ty := c.shape
  let enterChild (c : Value) : Logged (Value × Except Fault Unit) := do
    match c.child? step.key with
    | none => pure (c, .error (.noProperty ty step.key.describe))
    | some child =>
      let (child, r) ← ctx.fill child
      pure (c.setChild step.key child, r)
  match step.key, c with
  | .field name access, .record _ _ =>
    if !access.readable then pure (c, .error (.writeOnly ty name))
    else
      match c.child? step.key with
      | some child =>
        if !access.writable && child.present.isNone then pure (c, .error (.readOnly ty name))
        else enterChild c
      | none => pure (c, .error (.noProperty ty name))
  | .index i, .list l t items => do
    let (items, r) ← ctx.pad items (i + 1) ty step.target
    match r with
    | .error f => pure (.list l t items, .error f)
    | .ok () => enterChild (.list l t items)
  | .index i, .untypedList items => do
    let (items, r) ← ctx.pad items (i + 1) ty step.target
    match r with
    | .error f => pure (.untypedList items, .error f)
    | .ok () => enterChild (.untypedList items)
  | .index i, .array _ items =>
    if i < items.length then enterChild c
    else pure (c, .error (.unsupported .array ty (.index i items.length)))
  | .member raw key, .map l kt vt es =>
    match Entries.find? key es with
    | some _ => enterChild c
    | none => do
      match ← (ctx.createMissing step.target).run with
      | .error f => pure (c, .error f)
      | .ok fresh =>
        match ← (ctx.coerce (.typed key.shape) (.one raw)).run with
        | .error f => pure (c, .error f)
        | .ok owned =>
          let (p, es, _) := Entries.add ctx.table l kt vt owned fresh es
          enterChild (.map p kt vt es)
  | _, _ => pure (c, .error (.unsupported step.kind ty (.navigateInto step.key.describe)))

/-- Stores a value at the element a step addresses. -/
def store (step : Step) (c : Value) (v : Value) : Logged (Value × Except Fault Unit) := do
  let ty := c.shape
  let target := step.target.shape
  let fits (expected : Shape) (c' : Value) : Value × Except Fault Unit :=
    if v.shape == expected then (c', .ok ()) else (c, .error (Fault.misfit target v))
  match step.key, c with
  | .field name access, .record r _ =>
    if !access.writable then pure (c, .error (.readOnly ty name))
    else
      match r.field? name with
      | some f => pure (fits f.shape (c.setChild step.key v))
      | none => pure (c, .error (.noProperty ty name))
  | .index i, .list l t items => do
    let (items, r) ← ctx.pad items i ty step.target
    match r with
    | .error f => pure (.list l t items, .error f)
    | .ok () =>
      if v.shape == t then
        pure (if i == items.length then .list l t (items ++ [v]) else .list l t (items.set i v), .ok ())
      else pure (.list l t items, .error (Fault.misfit target v))
  | .index i, .untypedList items => do
    let (items, r) ← ctx.pad items i ty step.target
    match r with
    | .error f => pure (.untypedList items, .error f)
    | .ok () =>
      match items[i]? with
      | none => pure (.untypedList (items ++ [v]), .ok ())
      | some old =>
        if v.shape == old.shape then pure (.untypedList (items.set i v), .ok ())
        else pure (.untypedList items, .error (Fault.misfit target v))
  | .index i, .array t items =>
    if i < items.length then pure (fits t (.array t (items.set i v)))
    else pure (c, .error (.unsupported .array ty (.index i items.length)))
  | .member raw key, .map l kt vt es => do
    match ← (ctx.coerce (.typed key.shape) (.one raw)).run with
    | .error f => pure (c, .error f)
    | .ok owned =>
      let (p, es, _) := Entries.add ctx.table l kt vt owned v es
      pure (fits vt (.map p kt vt es))
  | .member .., .set l t ms | .text _, .set l t ms =>
    let (p, ms, _) := Members.add ctx.table l t v ms
    pure (fits t (.set p t ms))
  | .text key, .properties es =>
    match v with
    | .string s => pure (.properties (Table.insert key s es).1, .ok ())
    | _ => pure (c, .error (Fault.misfit target v))
  | .length, _ => pure (c, .error (.unsupported .length ty .assignment))
  | _, _ => pure (c, .error (.unsupported step.kind ty (.write step.key.describe)))

end Context

end ValuePaths
