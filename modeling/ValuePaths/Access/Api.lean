import ValuePaths.Access.Descriptor

/-!
# Reading and writing properties by path

The entry points of the library: read the value a path addresses, read it as a value of
an expected shape, convert text and write it there, or write a list of paths in order.

Reads fail only on malformed paths and on containers that declare no element shape under
strict generics; anything missing on the way reads as absent.  Writes create what is
missing, and a failed write keeps what it created before failing.  Writing a list of
paths stops at the first failure and keeps the writes before it.

## Main definitions

* `Context.get`, `Context.getAs`, `Context.set` — one path.
* `Context.apply` — a list of paths.
-/

namespace ValuePaths

variable [Catalogue]

/-- The route of a parsed path: each element resolved against the value it meets. -/
def Path.route (p : Path) : Route := ⟨p.source, p.steps.map (.element ·.segment)⟩

/-- The first write of a list that failed: its path, its text and why. -/
structure ApplyError where
  key : String
  value : String
  source : AccessError
  deriving Repr, Inhabited

/-- The description of a failed write of a list. -/
def ApplyError.message (e : ApplyError) : String :=
  s!"cannot apply property `{e.key}` = `{e.value}`"

namespace Context

variable (ctx : Context)

/-- Reads the value a path addresses. -/
def get (root : Value) (path : String) : Logged (Except AccessError (Option Found)) :=
  match Path.parse path with
  | .error e => pure (.error (AccessError.ofPath e))
  | .ok p => ctx.readWalk p.route root

/-- Reads the value a path addresses, which must have shape `s`. -/
def getAs (root : Value) (path : String) (s : Shape) : Logged (Except AccessError (Option Value)) := do
  match ← ctx.get root path with
  | .error e => pure (.error e)
  | .ok none => pure (.ok none)
  | .ok (some found) =>
    let v := found.toValue
    if v.shape == s then pure (.ok (some v))
    else pure (.error ⟨.convert v.debug s (.foundOther v.shape), path, none⟩)

/-- Converts text and writes it at the value a path addresses. -/
def set (root : Value) (path : String) (r : Raw) : Logged (Value × Except AccessError Unit) :=
  match Path.parse path with
  | .error e => pure (root, .error (AccessError.ofPath e))
  | .ok p => ctx.writeWalk p.route root r

/-- Writes each path in order, from the `done`-th on; stops at the first failure. -/
def applyFrom (done : Nat) : Value → List (String × Raw) → Logged (Value × Except ApplyError Nat)
  | root, [] => pure (root, .ok done)
  | root, (key, r) :: rest => do
    let (root, res) ← ctx.set root key r
    match res with
    | .error e =>
      note .debug s!"stopped after {done} properties: {e.message}"
      pure (root, .error ⟨key, r.display, e⟩)
    | .ok () => applyFrom (done + 1) root rest

/-- Writes each path in order and counts them; stops at the first failure. -/
def apply (root : Value) (props : List (String × Raw)) : Logged (Value × Except ApplyError Nat) :=
  ctx.applyFrom 0 root props

end Context

end ValuePaths
