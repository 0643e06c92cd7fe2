import ValuePaths.Access.Error
import ValuePaths.Registry.Basic
import ValuePaths.Value.Hash

/-!
# The access context

Paths are resolved and applied in a context: a registry, which says which shapes can be
created and how text converts to them, four options, and the fixed-seed hash tables that
sets and maps are kept in.

The element shapes of a container are found here too.  A list or an array is indexed
by `usize`; a set is addressed by its members and a map by its keys; a text table by
text.  A list that declares no element shape keeps its elements as text, with a warning
each time that is decided, or refuses to be subscripted under strict generics.

## Main definitions

* `Options` — the switches of an access, with their defaults.
* `Context` — a registry with options and tables.
* `Target` — the shape a step produces, or untyped text.
* `Context.elementTargets` — the key and element targets of a container.
-/

namespace ValuePaths

variable [Catalogue]

/-- The switches that change how paths are resolved and applied. -/
structure Options where
  /-- Create missing options, list elements and map entries while writing. -/
  createMissing : Bool := true
  /-- Refuse containers that declare no element shape, instead of keeping text. -/
  strictGenerics : Bool := false
  /-- Read `length` and `size` of a container as its element count. -/
  pseudoProperties : Bool := true
  /-- The most elements one step may append to a list to reach an index. -/
  maxListPadding : Nat := 1024
  deriving DecidableEq, Repr, Inhabited

/-- A registry, the options of an access, and the fixed-seed hash tables that sets and maps
of that layout are kept in. -/
structure Context where
  registry : Registry
  options : Options := {}
  table : FixedTable := .probing
  deriving Inhabited

/-- A computation that notes diagnostics and may fail with a fault. -/
abbrev Checked := ExceptT Fault Logged

/-- The shape a step produces: a declared shape, or text kept as it was written. -/
inductive Target where
  | typed (s : Shape)
  | untyped
  deriving DecidableEq, Repr, Inhabited

/-- The shape of the values a target holds: text for untyped elements. -/
def Target.shape : Target → Shape
  | .typed s => s
  | .untyped => .string

namespace Context

variable (ctx : Context)

/-- The element target of a list that declares none: a fault under strict generics, and
otherwise text, with a warning. -/
def undeclaredElement (s : Shape) : Checked Target :=
  if ctx.options.strictGenerics then throw (.undeclared s)
  else do
    note .warn s!"`{s.path}` declares no element type, elements are kept as strings"
    pure .untyped

/-- The key and element targets of a container; none for other shapes. -/
def elementTargets : Shape → Checked (Option (Target × Target))
  | .list _ t => pure (some (.typed .usize, .typed t))
  | s@.untypedList => do pure (some (.typed .usize, ← ctx.undeclaredElement s))
  | .array t _ => pure (some (.typed .usize, .typed t))
  | .set _ t => pure (some (.typed t, .typed t))
  | .map _ k v => pure (some (.typed k, .typed v))
  | .properties => pure (some (.untyped, .untyped))
  | _ => pure none

end Context

end ValuePaths
