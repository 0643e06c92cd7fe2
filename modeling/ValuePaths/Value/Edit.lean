import ValuePaths.Value.Collection

/-!
# Editing a container in place

The operations a value offers on its own elements, without paths or text: look an element
up, overwrite it, add one.  Every write compares the shape of the value it is given with
the shape of the place it goes to; when they differ the value is handed back and the
container stays as it was.

* A list grows by appending, or by inserting at a position up to its length.  A list that
  declares no element shape takes values of every shape.
* A set inserts a member once.  A map inserts an entry, replacing the value of an equal
  key and handing back the value it replaced.
* An element that is present (a list or array slot, a field, a map entry, the value of a
  set option) can be overwritten by a value of its own shape.
* A whole value can be replaced by another of its shape.

Asking a value for a view of another kind (a list view of a map, say) is a
`KindMismatch`.

## Main definitions

* `KindMismatch`, `Kind.expect` — views of the wrong kind.
* `Place`, `Value.at?`, `Value.writeAt` — elements that are present.
* `Value.push`, `Value.insertAt`, `Value.insertMember`, `Value.insertEntry`,
  `Value.replaceInner`, `Value.replace` — adding and replacing.
-/

namespace ValuePaths

variable [Catalogue]

/-- A value was asked for a view of a kind it does not have. -/
structure KindMismatch where
  expected : Kind
  found : Kind
  deriving DecidableEq, Repr, Inhabited

/-- The description of a kind mismatch. -/
def KindMismatch.message (e : KindMismatch) : String :=
  s!"expected a {e.expected.word} but found a {e.found.word}"

/-- A value of kind `found` offers the view of kind `expected` exactly when the two
agree. -/
def Kind.expect (expected found : Kind) : Except KindMismatch Unit :=
  if expected = found then .ok () else .error ⟨expected, found⟩

/-- An element that is present in a container. -/
inductive Place where
  /-- A position of a list or an array. -/
  | index (i : Nat)
  /-- A field of a record. -/
  | field (name : String)
  /-- The value under a map key. -/
  | entry (key : Value)
  /-- The value of a set option. -/
  | inner
  deriving Repr, Inhabited

namespace Value

/-- The kind of a value: the kind of its shape. -/
def kind (v : Value) : Kind := v.shape.kind

/-- The fields of a record with their names, in declaration order; none for other
values. -/
def namedFields : Value → List (String × Value)
  | record r fields => (r.fields.map (·.name)).zip fields
  | _ => []

/-- The element at a place.  A key of another shape than the keys of a map addresses
nothing in it. -/
def at? : Value → Place → Option Value
  | list _ _ items, .index i | untypedList items, .index i | array _ items, .index i => items[i]?
  | record r fields, .field name => ((r.fields.map (·.name)).zip fields).lookup name
  | map _ k _ es, .entry key => if key.shape = k then Entries.find? key es else none
  | option _ x, .inner => x
  | _, _ => none

/-- The member of a set equal to `m`.  A value of another shape than the members is
none of them. -/
def member? : Value → Value → Option Value
  | set _ t ms, m => if m.shape = t then Members.find? m ms else none
  | _, _ => none

/-- Puts a value at a place, with no check of its shape; a place that is not present is
left alone. -/
def putAt : Value → Place → Value → Value
  | list l t items, .index i, w => list l t (items.set i w)
  | untypedList items, .index i, w => untypedList (items.set i w)
  | array t items, .index i, w => array t (items.set i w)
  | record r fields, .field name, w =>
    match r.fields.findIdx? (·.name == name) with
    | some i => record r (fields.set i w)
    | none => record r fields
  | map l k t es, .entry key, w => map l k t (Entries.update key w es)
  | option t (some _), .inner, w => option t (some w)
  | v, _, _ => v

/-- Replaces a value by one of the same shape; one of another shape is handed back. -/
def replace (v w : Value) : Except Value Value :=
  if w.shape = v.shape then .ok w else .error w

/-- Overwrites the element at a place by a value of the element's shape.  Gives `none`
when no element is there, and hands the value back when its shape differs. -/
def writeAt (v : Value) (p : Place) (w : Value) : Option (Except Value Value) :=
  (v.at? p).map fun old => (old.replace w).map (v.putAt p)

/-- Appends an element to a list.  A value of another shape than the declared elements
is handed back, as is every value given to something that is no list. -/
def push : Value → Value → Except Value Value
  | list l t items, w => if w.shape = t then .ok (list l t (items ++ [w])) else .error w
  | untypedList items, w => .ok (untypedList (items ++ [w]))
  | _, w => .error w

/-- Inserts an element into a list before position `i`, which may be the length.  A
position past the end, or a value of another shape than the declared elements, hands the
value back. -/
def insertAt : Value → Nat → Value → Except Value Value
  | list l t items, i, w =>
    if i ≤ items.length ∧ w.shape = t then .ok (list l t (items.insertIdx i w)) else .error w
  | untypedList items, i, w =>
    if i ≤ items.length then .ok (untypedList (items.insertIdx i w)) else .error w
  | _, _, w => .error w

/-- Inserts a member into a set, a fixed-seed one into a table of `tbl`; the flag tells
whether it was new.  A value of another shape than the members is handed back. -/
def insertMember (tbl : FixedTable) : Value → Value → Except Value (Value × Bool)
  | set l t ms, m =>
    if m.shape = t then
      let (l, ms, fresh) := Members.add tbl l t m ms
      .ok (set l t ms, fresh)
    else .error m
  | _, m => .error m

/-- Inserts an entry into a map, giving back the value it replaced.  A key or a value of
another shape than the map's hands both back. -/
def insertEntry (tbl : FixedTable) :
    Value → Value → Value → Except (Value × Value) (Value × Option Value)
  | map l k t es, key, w =>
    if key.shape = k ∧ w.shape = t then
      let (l, es, old) := Entries.add tbl l k t key w es
      .ok (map l k t es, old)
    else .error (key, w)
  | _, key, w => .error (key, w)

/-- Sets or clears the value of an option.  A value of another shape than the option's
is handed back; something that is no option refuses every value and stays as it is when
cleared. -/
def replaceInner : Value → Option Value → Except Value Value
  | option t _, none => .ok (option t none)
  | option t _, some w => if w.shape = t then .ok (option t (some w)) else .error w
  | v, none => .ok v
  | _, some w => .error w

end Value

end ValuePaths
