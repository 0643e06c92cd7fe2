import ValuePaths.Registry.Convert
import ValuePaths.Log

/-!
# The type registry

A registry is the set of shapes a program knows about, each with the traits installed
for it: a default value (every shape but a record declared without one) and a converter
from text (every scalar, and whatever was installed later).

Registering a shape also registers everything it refers to: the fields of a record, the
element of a list, set, array or option, the key and the value of a map.  The walk is
depth first, a shape before its parts, parts in order, and a shape already present is
neither registered again nor changed, so a converter installed earlier stays in place.

Besides its entries a registry keeps three indices, updated each time a shape is stored:
the shapes by full path, the shapes by short name, and the short names that two shapes
share.  A short name met a second time leaves the name index for good and joins the
ambiguous names, so a lookup by name finds a shape only when it is the one with that name.

## Main definitions

* `Registry` — the registered shapes in order, with their converters and name indices.
* `Registry.insertMeta` — stores a new shape and indexes its names.
* `Registry.register` — registers a shape and its parts, noting each new one.
* `Registry.standard` — the registry of the scalars.
* `Registry.convert` — converts text with the converter of a shape.
* `Registry.createDefault` — the default value of a registered shape.
-/

namespace ValuePaths

namespace Shape

variable [Catalogue]

/-- The shapes a shape refers to directly, in order. -/
def dependencies : Shape → List Shape
  | record r => r.fields.map (·.shape)
  | list _ t | array t _ | option t | set _ t => [t]
  | map _ k v => [k, v]
  | _ => []

/-- A shape and every shape inside it. -/
def parts : Shape → List Shape
  | s@(list _ t) | s@(array t _) | s@(option t) | s@(set _ t) => s :: t.parts
  | s@(map _ k v) => s :: (k.parts ++ v.parts)
  | s => [s]

/-- Whether a default value of the shape can be created: all shapes but records declared
without one. -/
def hasDefault : Shape → Bool
  | record r => r.hasDefault
  | _ => true

end Shape

/-- A registered shape and the converter installed for it. -/
structure Entry where
  shape : Shape
  converter : Option Converter
  deriving Inhabited

/-- An index from text to shapes, answering as a hash map keyed by text does: a key finds
the shape inserted last under it, and nothing once erased. -/
structure TextIndex where
  pairs : List (String × Shape) := []
  deriving DecidableEq, Repr, Inhabited

namespace TextIndex

/-- The shape under a key. -/
def find? (i : TextIndex) (k : String) : Option Shape := i.pairs.lookup k

/-- Whether a key has a shape. -/
def contains (i : TextIndex) (k : String) : Bool := (i.find? k).isSome

/-- Removes a key. -/
def erase (i : TextIndex) (k : String) : TextIndex := ⟨i.pairs.filter (·.1 != k)⟩

/-- Puts a shape under a key, in place of the one it had. -/
def insert (i : TextIndex) (k : String) (s : Shape) : TextIndex := ⟨(k, s) :: (i.erase k).pairs⟩

theorem lookup_cons_of_ne {k j : String} (h : k ≠ j) (t : Shape) (ps : List (String × Shape)) :
    ((j, t) :: ps).lookup k = ps.lookup k := by
  rw [List.lookup_cons, show (k == j) = false by simpa using h]

theorem find?_erase (i : TextIndex) (k k' : String) :
    (i.erase k).find? k' = if k' = k then none else i.find? k' := by
  obtain ⟨pairs⟩ := i
  simp only [find?, erase]
  induction pairs with
  | nil => split <;> rfl
  | cons p ps ih =>
    obtain ⟨j, t⟩ := p
    by_cases hj : j = k
    · -- the pair under `k` is dropped
      subst hj
      rw [List.filter_cons_of_neg (by simp), ih]
      by_cases hk : k' = j
      · simp [hk]
      · rw [if_neg hk, if_neg hk, lookup_cons_of_ne hk]
    · rw [List.filter_cons_of_pos (by simpa using hj)]
      by_cases hk : k' = j
      · subst hk
        simp [hj]
      · rw [lookup_cons_of_ne hk, lookup_cons_of_ne hk, ih]

theorem find?_insert (i : TextIndex) (k k' : String) (s : Shape) :
    (i.insert k s).find? k' = if k' = k then some s else i.find? k' := by
  by_cases hk : k' = k
  · subst hk
    simp [find?, insert]
  · rw [if_neg hk, ← if_neg hk (t := none) (e := i.find? k'), ← find?_erase]
    exact lookup_cons_of_ne hk s _

theorem contains_iff (i : TextIndex) (k : String) : i.contains k = true ↔ ∃ s, i.find? k = some s :=
  Option.isSome_iff_exists

@[simp] theorem find?_empty (k : String) : ({} : TextIndex).find? k = none := rfl

end TextIndex

/-- The registered shapes, in the order of registration, with the indices kept beside
them: shapes by full path, shapes by short name, and the short names that are shared. -/
structure Registry where
  entries : List Entry
  paths : TextIndex := {}
  names : TextIndex := {}
  ambiguous : List String := []
  deriving Inhabited

namespace Registry

variable [Catalogue]

/-- The registry that knows no shape. -/
def empty : Registry := { entries := [] }

/-- The number of registered shapes. -/
def size (reg : Registry) : Nat := reg.entries.length

/-- The entry of a shape. -/
def find? (reg : Registry) (s : Shape) : Option Entry := reg.entries.find? (·.shape == s)

/-- Whether a shape is registered. -/
def contains (reg : Registry) (s : Shape) : Bool := reg.entries.any (·.shape == s)

/-- Whether a converter is installed for a shape. -/
def hasConverter (reg : Registry) (s : Shape) : Bool :=
  match reg.find? s with
  | some e => e.converter.isSome
  | none => false

/-- Every shape that registering a shape can reach: its own parts, the records, and the
parts of every field of a record.  It bounds the depth of a registration. -/
def reachBound (s : Shape) : Nat :=
  s.parts.length + (Record.catalogue.flatMap fun r =>
    Shape.record r :: r.fields.flatMap (·.shape.parts)).length + 1

/-- Stores the entry of a shape that is not registered yet and indexes its names.  The
full path always points to it.  Its short name points to it unless the name is shared: met
a second time, the name leaves the index for good and joins the ambiguous names. -/
def insertMeta (reg : Registry) (entry : Entry) : Registry :=
  let s := entry.shape
  let (names, ambiguous) :=
    if reg.ambiguous.contains s.name then (reg.names, reg.ambiguous)
    -- the name was taken: inserting it and removing it again leaves it out
    else if reg.names.contains s.name then (reg.names.erase s.name, s.name :: reg.ambiguous)
    else (reg.names.insert s.name s, reg.ambiguous)
  { entries := reg.entries ++ [entry], paths := reg.paths.insert s.path s, names, ambiguous }

omit [Catalogue] in
@[simp] theorem entries_insertMeta (reg : Registry) (entry : Entry) :
    (reg.insertMeta entry).entries = reg.entries ++ [entry] := rfl

/-- Registers a shape and then its dependencies, depth first; `fuel` bounds the depth. -/
def enrol : Nat → Shape → Registry → Logged Registry
  | 0, _, reg => pure reg
  | fuel + 1, s, reg =>
    if reg.contains s then pure reg
    else do
      note .trace s!"registered type `{s.path}`"
      let entry : Entry := ⟨s, match s with | .scalar sc => some (.standard sc) | _ => none⟩
      s.dependencies.foldlM (fun r d => enrol fuel d r) (reg.insertMeta entry)

/-- Registers a shape and everything it refers to that is not registered yet. -/
def register (reg : Registry) (s : Shape) : Logged Registry :=
  enrol (reachBound s) s reg

/-- The scalars, in the order the standard registry registers them. -/
def standardScalars : List Scalar :=
  [.bool, .char, .int .u8, .int .u16, .int .u32, .int .u64, .int .u128, .int .usize,
   .int .i8, .int .i16, .int .i32, .int .i64, .int .i128, .int .isize, .f32, .f64, .string]

/-- The registry of the sixteen primitive scalars and text. -/
def standard : Logged Registry :=
  standardScalars.foldlM (fun reg sc => reg.register (.scalar sc)) empty

/-- Registers every record of the catalogue. -/
def registerCatalogue (reg : Registry) : Logged Registry := do
  let reg ← Record.catalogue.foldlM (fun r rec => r.register (.record rec)) reg
  note .debug s!"auto registered {Record.catalogue.length} record types"
  pure reg

/-- Installs a converter for a shape, registering the shape first if needed. -/
def install (reg : Registry) (s : Shape) (c : Converter) : Logged Registry := do
  let reg ← reg.register s
  pure { reg with
    entries := reg.entries.map fun e => if e.shape == s then { e with converter := some c } else e }

/-! ## Looking shapes up -/

/-- The registered shape that the path index gives for a full path. -/
def byPath (reg : Registry) (path : String) : Option Shape := do
  let s ← reg.paths.find? path
  (reg.find? s).map (·.shape)

/-- The registered shape that the name index gives for a short name; none for a name that
is shared. -/
def byName (reg : Registry) (name : String) : Option Shape := do
  let s ← reg.names.find? name
  (reg.find? s).map (·.shape)

/-- Whether a short name is among the shared ones. -/
def isAmbiguous (reg : Registry) (name : String) : Bool := reg.ambiguous.contains name

/-- A field of a registered record. -/
def field? (reg : Registry) (s : Shape) (name : String) : Option Field :=
  match s with
  | .record r => if reg.contains s then r.field? name else none
  | _ => none

/-- The number of traits installed for a registered shape: a default and a converter. -/
def traitCount (reg : Registry) (s : Shape) : Nat :=
  (if s.hasDefault then 1 else 0) + (if reg.hasConverter s then 1 else 0)

/-! ## Converting and creating -/

/-- Converts text with the converter installed for exactly this shape. -/
def convert (reg : Registry) (raw : String) (s : Shape) : Except ConversionError Value :=
  match reg.find? s with
  | none => .error ⟨raw, none, .unregistered⟩
  | some ⟨_, none⟩ => .error ⟨raw, some s, .noConverter⟩
  | some ⟨_, some c⟩ =>
    match c.read raw with
    | .ok v => .ok v
    | .error r => .error ⟨raw, some s, .unreadable r⟩

/-- The default value of a registered shape that has one. -/
def createDefault (reg : Registry) (s : Shape) : Option Value :=
  if reg.contains s && s.hasDefault then some s.zero else none

end Registry

end ValuePaths
