import ValuePaths.Access.Walk

/-!
# Compiled paths

A path can be resolved once against a root shape and then applied to many values of that
shape: field lookups, index reading and key conversion happen at compile time, and
applying the result only walks the value.

Compiling refuses what only a live value could decide: going past an element of a
container that declares no element shape.  A compiled path applied to a value of another
shape than its root fails before it starts.

A cache keeps compiled paths by root shape and path text; failures are not kept.

## Main definitions

* `Descriptor` — a path resolved against a root shape.
* `Context.compile` — resolves a path against a root shape.
* `Context.readCompiled`, `Context.writeCompiled` — apply a descriptor.
* `Cache` — compiled paths by root shape and path.
-/

namespace ValuePaths

variable [Catalogue]

/-- A path resolved once against a root shape. -/
structure Descriptor where
  root : Shape
  path : String
  steps : List Step
  deriving Repr, Inhabited

namespace Context

variable (ctx : Context)

/-- Resolves the elements from position `i` on, starting at shape `cursor`. -/
def compileFrom (path : String) : Nat → Shape → List Segment →
    Logged (Except AccessError (List Step))
  | _, _, [] => pure (.ok [])
  | i, cursor, e :: rest => do
    let isLast := rest.isEmpty
    match ← (ctx.resolve e cursor isLast).run with
    | .error f => pure (.error ⟨f, path, some i⟩)
    | .ok step =>
      match step.target with
      | .typed t => ((step :: ·) <$> ·) <$> compileFrom path (i + 1) t rest
      | .untyped =>
        if isLast then pure (.ok [step])
        else pure (.error ⟨.unsupported step.kind step.container .throughUntyped, path, some i⟩)

/-- Resolves a path against a root shape. -/
def compile (root : Shape) (path : String) : Logged (Except AccessError Descriptor) := do
  match Path.parse path with
  | .error e => pure (.error (AccessError.ofPath e))
  | .ok p =>
    match ← ctx.compileFrom path 0 root (p.steps.map (·.segment)) with
    | .error e => pure (.error e)
    | .ok steps =>
      note .debug s!"compiled `{path}` for `{root.path}` into {steps.length} steps"
      pure (.ok ⟨root, path, steps⟩)

end Context

namespace Descriptor

/-- The route of a descriptor: its steps, already resolved. -/
def route (d : Descriptor) : Route := ⟨d.path, d.steps.map .resolved⟩

/-- Fails unless a value has the root shape of the descriptor. -/
def checkRoot (d : Descriptor) (v : Value) : Except AccessError Unit :=
  if v.shape == d.root then .ok () else .error ⟨.mismatchedRoot d.root v.shape, d.path, none⟩

end Descriptor

namespace Context

variable (ctx : Context)

/-- Reads what a descriptor addresses in a value of its root shape. -/
def readCompiled (d : Descriptor) (v : Value) : Logged (Except AccessError (Option Found)) :=
  match d.checkRoot v with
  | .error e => pure (.error e)
  | .ok () => ctx.readWalk d.route v

/-- Writes text at what a descriptor addresses in a value of its root shape. -/
def writeCompiled (d : Descriptor) (v : Value) (r : Raw) :
    Logged (Value × Except AccessError Unit) :=
  match d.checkRoot v with
  | .error e => pure (v, .error e)
  | .ok () => ctx.writeWalk d.route v r

end Context

/-- Compiled paths by root shape and path text, with the serial number each got when it
was compiled: a cached path is handed out again as the same one. -/
structure Cache where
  entries : List ((Shape × String) × Nat × Descriptor)
  /-- The serial number of the next compiled path. -/
  next : Nat
  deriving Repr, Inhabited

namespace Cache

/-- The empty cache. -/
def empty : Cache := ⟨[], 0⟩

/-- The number of cached paths. -/
def size (c : Cache) : Nat := c.entries.length

/-- Whether no path is cached. -/
def isEmpty (c : Cache) : Bool := c.size == 0

/-- Forgets every cached path. -/
def clear (c : Cache) : Cache := { c with entries := [] }

/-- The cached path of a root shape and path text, with its serial number. -/
def find? (c : Cache) (root : Shape) (path : String) : Option (Nat × Descriptor) :=
  (c.entries.find? (·.1 == (root, path))).map (·.2)

/-- The cached path of a root shape and path text, compiled and kept if it is not there.
Gives its serial number and whether it came from the cache. -/
def getOrCompile (c : Cache) (ctx : Context) (root : Shape) (path : String) :
    Logged (Cache × Except AccessError (Nat × Descriptor × Bool)) := do
  match c.find? root path with
  | some (n, d) => pure (c, .ok (n, d, true))
  | none =>
    match ← ctx.compile root path with
    | .error e => pure (c, .error e)
    | .ok d => pure (⟨c.entries ++ [((root, path), c.next, d)], c.next + 1⟩, .ok (c.next, d, false))

end Cache

end ValuePaths
