import ValuePaths.Access.Slot

/-!
# Walking a path over a value

A walk applies the steps of a path one after the other, each to the element the one
before it reached.  Steps come from a route: either path elements, each resolved against
the shape of the value it meets, or steps resolved once, ahead of time.

A walk moves through states, one per container it passes, and ends at a leaf or in an
error; every move is noted.

* **Reading** is tolerant: a name that is no property, a key that does not convert, and
  anything absent on the way make the whole read absent.  Other faults fail it.
* **Writing** enters each element but the last, creating what is missing, converts the
  text for the last one and stores it there.  A set member cannot be entered in place, so
  a write through a set builds the member on its own first, writes the rest of the path
  into it, and then inserts it.

## Main definitions

* `Route` — where the steps of a walk come from.
* `Context.readWalk`, `Context.writeWalk` — the two walks.
-/

namespace ValuePaths

variable [Catalogue]

/-- Where a walk is. -/
inductive WalkState where
  | atRoot
  | inRecord
  | inList
  | inSet
  | inMap
  | inArray
  | inProperties
  | atLeaf
  | error
  deriving DecidableEq, Repr, Inhabited

namespace WalkState

/-- The name of a state in notes. -/
def name : WalkState → String
  | atRoot => "AtRoot"
  | inRecord => "InRecord"
  | inList => "InList"
  | inSet => "InSet"
  | inMap => "InMap"
  | inArray => "InArray"
  | inProperties => "InProperties"
  | atLeaf => "AtLeaf"
  | error => "Error"

/-- The state while a step of a kind is applied; the element count is a leaf. -/
def applying : StepKind → WalkState
  | .record => inRecord
  | .list => inList
  | .set => inSet
  | .map => inMap
  | .array => inArray
  | .properties => inProperties
  | .length => atLeaf

end WalkState

/-- One step of a route: a path element still to be resolved, or a resolved step. -/
inductive Leg where
  | element (s : Segment)
  | resolved (s : Step)
  deriving Repr, Inhabited

/-- A path to walk: its text and its legs. -/
structure Route where
  path : String
  legs : List Leg
  deriving Repr, Inhabited

/-- Notes a move of the walk of `path` at element `i`. -/
def noteMove (path : String) (i : Nat) (source target : WalkState) : Logged Unit :=
  note .trace s!"`{path}` element {i}: {source.name} -> {target.name}"

/-- Whether a fault met while reading makes the read absent rather than failed. -/
def Fault.readsAsAbsent : Fault → Bool
  | .noProperty .. | .conversion _ => true
  | _ => false

namespace Context

variable (ctx : Context)

/-- The step of a leg, met at a value of shape `s`. -/
def legStep (leg : Leg) (s : Shape) (isLast : Bool) : Checked Step :=
  match leg with
  | .element e => ctx.resolve e s isLast
  | .resolved step => pure step

/-- Reads along the legs from element `i` on, starting in `state` at `cursor`. -/
def readFrom (path : String) : Nat → WalkState → List Leg → Value →
    Logged (Except AccessError (Option Found))
  | i, state, [], cursor => do
    noteMove path i state .atLeaf
    pure (.ok (some (.value cursor)))
  | i, state, leg :: rest, cursor => do
    match ← (ctx.legStep leg cursor.shape rest.isEmpty).run with
    | .error f =>
      if Fault.readsAsAbsent f then
        note .debug s!"`{path}` element {i} reads as absent: {f.message}"
        pure (.ok none)
      else
        noteMove path i state .error
        pure (.error ⟨f, path, some i⟩)
    | .ok step =>
      let next := WalkState.applying step.kind
      noteMove path i state next
      match step.read cursor with
      | some (.value v) => readFrom path (i + 1) next rest v
      | some found => pure (.ok (some found))
      | none =>
        note .trace s!"`{path}` element {i} is absent"
        pure (.ok none)

/-- Reads what a route addresses in a value. -/
def readWalk (route : Route) (root : Value) : Logged (Except AccessError (Option Found)) :=
  ctx.readFrom route.path 0 .atRoot route.legs root

/-- The outcome of a write below some element: the state the walk ended in and whether it
succeeded. -/
abbrev Outcome := WalkState × Except AccessError Unit

/-- Writes along the legs from element `i` on into `c`, starting in `state`.  Gives back
`c` as the write left it, also on failure. -/
def writeFrom (path : String) (r : Raw) : Nat → WalkState → List Leg → Value →
    Logged (Value × Outcome)
  | _, state, [], c => pure (c, state, .ok ())
  | i, state, leg :: rest, c => do
    let fail (f : Fault) (source : WalkState) (c : Value) : Logged (Value × Outcome) := do
      noteMove path i source .error
      pure (c, .error, .error ⟨f, path, some i⟩)
    match ← (ctx.legStep leg c.shape rest.isEmpty).run with
    | .error f => fail f state c
    | .ok step =>
      let here := WalkState.applying step.kind
      noteMove path i state here
      if rest.isEmpty then
        match ← (ctx.coerce step.target r).run with
        | .error f => fail f here c
        | .ok v =>
          let (c', res) ← ctx.store step c v
          match res with
          | .error f => fail f here c'
          | .ok () =>
            noteMove path (i + 1) here .atLeaf
            pure (c', .atLeaf, .ok ())
      else if step.kind == .set then
        match ← (ctx.createMissing step.target).run with
        | .error f => fail f here c
        | .ok member =>
          let (member, res) ← ctx.fill member
          match res with
          | .error f => fail f here c
          | .ok () =>
            let (inner, state', res) ← writeFrom path r (i + 1) here rest member.inner
            match res with
            | .error e => pure (c, state', .error e)
            | .ok () =>
              let (c', res) ← ctx.store step c (member.withInner inner)
              match res with
              | .error f => fail f state' c'
              | .ok () => pure (c', state', .ok ())
      else
        let (c', res) ← ctx.descend step c
        match res, c'.child? step.key with
        | .error f, _ => fail f here c'
        | .ok (), none => fail (.noProperty c.shape step.key.describe) here c'
        | .ok (), some child =>
          let (inner, outcome) ← writeFrom path r (i + 1) here rest child.inner
          pure (c'.setChild step.key (child.withInner inner), outcome)

/-- Converts text and stores it at what a route addresses in a value, creating what is
missing on the way.  The empty route addresses the value itself, which is left alone. -/
def writeWalk (route : Route) (root : Value) (r : Raw) :
    Logged (Value × Except AccessError Unit) := do
  if route.legs.isEmpty then
    note .debug s!"ignoring assignment of `{r.display}` to the root value"
    pure (root, .ok ())
  else
    let (root, _, res) ← ctx.writeFrom route.path r 0 .atRoot route.legs root
    pure (root, res)

end Context

end ValuePaths
