import ValuePaths.Access.Coerce

/-!
# Resolving a path element

A path element is bound to the shape of the container it applies to, with any `Option`
layers of that shape looked through.  Only shapes are inspected, never values, so the same
resolution serves walks over live values and paths compiled ahead of time.

* A name on a record selects the field of that name.
* `length` or `size` on a container selects its element count, when that view is on;
  the count has no elements, so it must be the last element of the path.
* A subscript on a list or an array is an index, read as a `usize`; on a map it is a key,
  converted to the key shape; on a set it is a member, converted when it can be (a member
  that cannot be converted can still be written, as writes to a set ignore the key); on a
  text table it is the key itself.
* Anything else names no property of the container, or is refused when it subscripts a
  record.

## Main definitions

* `Key` — how a step addresses its element.
* `Step` — a bound element: its kind, key, container and target.
* `Context.resolve` — binds a path element to a container shape.
-/

namespace ValuePaths

variable [Catalogue]

/-- How a step addresses its element inside its container. -/
inductive Key where
  | field (name : String) (access : Access)
  | index (i : Nat)
  /-- A map key or set member, with its text and its converted value. -/
  | member (raw : String) (value : Value)
  /-- A text-table key, or a set member that did not convert. -/
  | text (raw : String)
  | length
  deriving Repr, Inhabited

/-- The text of a key in messages. -/
def Key.describe : Key → String
  | .field name _ => name
  | .member raw _ => raw
  | .text raw => raw
  | .index _ => "<index>"
  | .length => "length"

/-- A path element bound to the container shape it applies to. -/
structure Step where
  kind : StepKind
  key : Key
  /-- The container, without its `Option` layers. -/
  container : Shape
  /-- What the element holds. -/
  target : Target
  deriving Repr, Inhabited

namespace Context

variable (ctx : Context)

/-- Whether a name reads the element count of a container. -/
def isCountName (name : String) : Bool := name == "length" || name == "size"

/-- Binds a path element to a container of shape `container`; `isLast` tells whether it
ends the path. -/
def resolve (segment : Segment) (container : Shape) (isLast : Bool) : Checked Step :=
  let c := container.unwrap
  match segment with
  | .property name =>
    match c with
    | .record r =>
      match r.field? name with
      | some f => pure ⟨.record, .field f.name f.access, c, .typed f.shape⟩
      | none => throw (.noProperty c name)
    | _ =>
      if isCountName name && ctx.options.pseudoProperties && c.kind.isContainer then
        if isLast then pure ⟨.length, .length, c, .typed .usize⟩
        else throw (.unsupported .length c (.throughLength name))
      else throw (.noProperty c name)
  | .subscript raw => do
    match ← ctx.elementTargets c with
    | none =>
      match c with
      | .record _ => throw (.unsupported .record c (.subscript raw))
      | _ => throw (.noProperty c ("[" ++ raw ++ "]"))
    | some (keyTarget, target) =>
      let index : Checked Key :=
        match IntType.usize.read raw with
        | .ok i => pure (.index i.toNat)
        | .error f => throw (.convert raw .usize (.unreadable f.message))
      match c with
      | .list .. | .untypedList => pure ⟨.list, ← index, c, target⟩
      | .array .. => pure ⟨.array, ← index, c, target⟩
      | .map .. =>
        let v ← ctx.coerce keyTarget (.one raw)
        pure ⟨.map, .member raw v, c, target⟩
      | .set .. =>
        let key ← tryCatch ((Key.member raw ·) <$> ctx.coerce keyTarget (.one raw))
          fun _ => pure (.text raw)
        pure ⟨.set, key, c, target⟩
      | _ => pure ⟨.properties, .text raw, c, target⟩

end Context

end ValuePaths
