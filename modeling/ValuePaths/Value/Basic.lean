import ValuePaths.Shape.Catalog

/-!
# Values

A value is a scalar, a record, or a container of values.  Every value
carries enough of its shape to name its own type: a list knows its element shape even
when it is empty, and an option knows its inner shape even when it is unset.  The one
exception is the untyped list, which declares nothing about its elements and may hold
values of any shape.

Maps and sets in an ordered tree, or in a hash table with a random seed, keep their members
sorted by `Value.cmp`, the order of the element type (numbers by size, text by code points,
options with the unset one first, records and lists lexicographically); nothing observes
the order of a randomly seeded table.  Maps and sets in a hash table with a fixed seed keep
their members in the order of their buckets, and their `Placement` records the buckets.
Each key or member occurs at most once.

## Main definitions

* `Placement` — how a map or set keeps its members.
* `Value` — the value tree, and `Value.shape`, the shape a value has at run time.
* `Value.cmp` — the total order that sorted containers use.
* `Shape.zero` — the default value of a shape: zero, empty, `false`, `'\0'` or unset.
-/

namespace ValuePaths

/-- How a map or set keeps its members at run time. -/
inductive Placement where
  /-- An ordered tree: sorted. -/
  | tree
  /-- A hash table with a random seed: kept sorted, since no answer depends on its order. -/
  | hash
  /-- A hash table with a fixed seed and `buckets` buckets; `slots` holds the bucket of
  each member, in increasing order, and the members follow that order. -/
  | table (buckets : Nat) (slots : List Nat)
  deriving DecidableEq, Repr, Inhabited

/-- The layout a placement belongs to. -/
def Placement.layout : Placement → Layout
  | .tree => .tree
  | .hash => .hash
  | .table .. => .fixedHash

/-- The placement of an empty map or set of a layout; a fixed-seed table starts without
buckets. -/
def Layout.start : Layout → Placement
  | .tree => .tree
  | .hash => .hash
  | .fixedHash => .table 0 []

/-- A value that paths can walk. -/
inductive Value where
  | bool (b : Bool)
  | char (c : Char)
  | int (t : IntType) (n : Int)
  /-- A single-precision float, by its bits. -/
  | f32 (bits : UInt32)
  /-- A double-precision float, by its bits. -/
  | f64 (bits : UInt64)
  | string (s : String)
  /-- A record with one value per field, in declaration order. -/
  | record (r : Record) (fields : List Value)
  | list (layout : ListLayout) (item : Shape) (items : List Value)
  | untypedList (items : List Value)
  /-- An array; its capacity is the number of its items. -/
  | array (item : Shape) (items : List Value)
  | option (inner : Shape) (value : Option Value)
  /-- A map, each key once, its entries kept as `placement` says. -/
  | map (placement : Placement) (key value : Shape) (entries : List (Value × Value))
  /-- A set, each member once, kept as `placement` says. -/
  | set (placement : Placement) (item : Shape) (members : List Value)
  /-- A text table, sorted by key, each key once. -/
  | properties (entries : List (String × String))
  deriving Repr, Inhabited

namespace Value

/-- The shape of a value at run time. -/
def shape : Value → Shape
  | bool _ => .scalar .bool
  | char _ => .scalar .char
  | int t _ => .scalar (.int t)
  | f32 _ => .scalar .f32
  | f64 _ => .scalar .f64
  | string _ => .scalar .string
  | record r _ => .record r
  | list l t _ => .list l t
  | untypedList _ => .untypedList
  | array t items => .array t items.length
  | option t _ => .option t
  | map p k v _ => .map p.layout k v
  | set p t _ => .set p.layout t
  | properties _ => .properties

/-- The position of a constructor, which orders values of different shapes. -/
def rank : Value → Nat
  | bool _ => 0 | char _ => 1 | int .. => 2 | f32 _ => 3 | f64 _ => 4 | string _ => 5
  | record .. => 6 | list .. => 7 | untypedList _ => 8 | array .. => 9 | option .. => 10
  | map .. => 11 | set .. => 12 | properties _ => 13

/-- Lexicographic order on lists of comparable items. -/
def cmpLex {α : Type} (cmp : α → α → Ordering) : List α → List α → Ordering
  | [], [] => .eq
  | [], _ :: _ => .lt
  | _ :: _, [] => .gt
  | x :: xs, y :: ys => (cmp x y).then (cmpLex cmp xs ys)

mutual
/-- The order of values: the order of their type for values of one shape. -/
def cmp : Value → Value → Ordering
  | bool a, bool b => compare a b
  | char a, char b => compare a b
  | int _ a, int _ b => compare a b
  | f32 a, f32 b => compare a b
  | f64 a, f64 b => compare a b
  | string a, string b => compare a b
  | record _ xs, record _ ys => cmpList xs ys
  | list _ _ xs, list _ _ ys => cmpList xs ys
  | untypedList xs, untypedList ys => cmpList xs ys
  | array _ xs, array _ ys => cmpList xs ys
  | option _ none, option _ none => .eq
  | option _ none, option _ (some _) => .lt
  | option _ (some _), option _ none => .gt
  | option _ (some a), option _ (some b) => cmp a b
  | map _ _ _ xs, map _ _ _ ys => cmpEntries xs ys
  | set _ _ xs, set _ _ ys => cmpList xs ys
  | properties xs, properties ys => cmpLex (fun p q => (compare p.1 q.1).then (compare p.2 q.2)) xs ys
  | a, b => compare a.rank b.rank

/-- Lexicographic order on lists of values. -/
def cmpList : List Value → List Value → Ordering
  | [], [] => .eq
  | [], _ :: _ => .lt
  | _ :: _, [] => .gt
  | x :: xs, y :: ys => (cmp x y).then (cmpList xs ys)

/-- Lexicographic order on lists of entries, each compared key first. -/
def cmpEntries : List (Value × Value) → List (Value × Value) → Ordering
  | [], [] => .eq
  | [], _ :: _ => .lt
  | _ :: _, [] => .gt
  | (k₁, v₁) :: xs, (k₂, v₂) :: ys => ((cmp k₁ k₂).then (cmp v₁ v₂)).then (cmpEntries xs ys)
end

/-- Whether two values are equal in the order of `cmp`. -/
def same (a b : Value) : Bool := cmp a b == .eq

end Value

/-! ## Default values -/

namespace Shape

/-- The default value of a shape, given the defaults of records: zero, `false`, `'\0'`,
empty text, empty containers, unset options, and arrays filled with the default of
their element. -/
def zeroWith (recordZero : Record → Value) : Shape → Value
  | scalar .bool => .bool false
  | scalar .char => .char (Char.ofNat 0)
  | scalar (.int t) => .int t 0
  | scalar .f32 => .f32 0
  | scalar .f64 => .f64 0
  | scalar .string => .string ""
  | record r => recordZero r
  | list l t => .list l t []
  | untypedList => .untypedList []
  | array t n => .array t (List.replicate n (zeroWith recordZero t))
  | option t => .option t none
  | map l k v => .map l.start k v []
  | set l t => .set l.start t []
  | properties => .properties []

end Shape

section Defaults

variable [Catalogue]

namespace Record

/-- The default of a record, building the defaults of the records it holds outside
containers at most `n` levels deep: the default of every field. -/
def zeroUpTo : Nat → Record → Value
  | 0, r => .record r []
  | n + 1, r => .record r (r.fields.map fun f => f.shape.zeroWith (zeroUpTo n))

/-- The default of a record: the default of every field, down through the records it
holds outside containers, which nest less deeply than the record does. -/
def zero (r : Record) : Value := zeroUpTo (Catalogue.depth r + 1) r

end Record

/-- The default value of a shape. -/
def Shape.zero (s : Shape) : Value := s.zeroWith Record.zero

end Defaults

end ValuePaths
