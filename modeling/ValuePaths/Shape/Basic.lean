/-!
# Shapes of values

A shape describes the type of a value that paths can walk: a scalar, a record type of the
program, or one of the containers built from other shapes.  Shapes are what the
registry stores, what path steps are resolved against, and what answers print, by
their full path (`alloc::vec::Vec<u8>`) or by their short name (`Vec<u8>`).

Two collection families come in several layouts that differ only in their names: an
ordered tree, a hash table with a random seed, and a hash table with a fixed seed.
Their contents behave alike here; every collection keeps its members sorted.

## Main definitions

* `IntType`, `Scalar`, `Record` — the leaves of a shape.
* `Shape` — a type description, with `Shape.path`, `Shape.name` and `Shape.kind`.
* `Shape.unwrap` — the shape under all `Option` layers.
* `Shape.generics` — the declared parameters of a container, by parameter name.
-/

namespace ValuePaths

/-- Fixed-width integer types: eight to one hundred and twenty-eight bits, unsigned or
two's complement.  The pointer-sized ones are sixty-four bits wide. -/
inductive IntType where
  | u8 | u16 | u32 | u64 | u128 | usize
  | i8 | i16 | i32 | i64 | i128 | isize
  deriving DecidableEq, Repr, Inhabited

namespace IntType

/-- The number of bits of the type. -/
def bits : IntType → Nat
  | u8 | i8 => 8
  | u16 | i16 => 16
  | u32 | i32 => 32
  | u64 | i64 | usize | isize => 64
  | u128 | i128 => 128

/-- Whether the type holds negative numbers. -/
def signed : IntType → Bool
  | i8 | i16 | i32 | i64 | i128 | isize => true
  | _ => false

/-- The least value of the type. -/
def min (t : IntType) : Int := if t.signed then -(Nat.pow 2 (t.bits - 1) : Int) else 0

/-- The greatest value of the type. -/
def max (t : IntType) : Int :=
  if t.signed then (Nat.pow 2 (t.bits - 1) : Int) - 1 else (Nat.pow 2 t.bits : Int) - 1

/-- The name of the type, which is also its full path. -/
def name : IntType → String
  | u8 => "u8" | u16 => "u16" | u32 => "u32" | u64 => "u64" | u128 => "u128"
  | usize => "usize" | i8 => "i8" | i16 => "i16" | i32 => "i32" | i64 => "i64"
  | i128 => "i128" | isize => "isize"

end IntType

/-- Values without inner structure: truth values, characters, integers, the two binary
floating-point formats, and text. -/
inductive Scalar where
  | bool
  | char
  | int (t : IntType)
  | f32
  | f64
  | string
  deriving DecidableEq, Repr, Inhabited

namespace Scalar

/-- The full path of a scalar type. -/
def path : Scalar → String
  | bool => "bool"
  | char => "char"
  | int t => t.name
  | f32 => "f32"
  | f64 => "f64"
  | string => "alloc::string::String"

/-- The short name of a scalar type. -/
def name : Scalar → String
  | string => "String"
  | s => s.path

end Scalar

namespace Record

/-- Whether a character may stand in the path of a record type: a letter, a digit, `_` or
`:`. -/
def IsPathChar (c : Char) : Bool := c.isAlphanum || c == '_' || c == ':'

/-- The paths of the types without parts that the library provides: the scalars, the
untyped list and the text table. -/
def builtinPaths : List String :=
  ["bool", "char", "u8", "u16", "u32", "u64", "u128", "usize", "i8", "i16", "i32", "i64",
   "i128", "isize", "f32", "f64", "alloc::string::String", "pw_reflect::ops::DynamicList",
   "pw_reflect::ops::Properties"]

end Record

/-- A record type of a program, named by its full path.  The path is made of letters,
digits, `_` and `:`, and is not the path of a type the library provides, so that the path
of every shape names it.  The fields of a record are given by the program's catalogue. -/
@[ext] structure Record where
  path : String
  pathChars : path.toList.all Record.IsPathChar = true
  not_builtin : path ∉ Record.builtinPaths

namespace Record

instance : DecidableEq Record := fun r r' =>
  decidable_of_iff (r.path = r'.path) Record.ext_iff.symm

instance : Repr Record := ⟨fun r n => reprPrec r.path n⟩

/-- The short name of a record type: its path after the last `::`. -/
def name (r : Record) : String := (r.path.splitOn "::").getLastD r.path

end Record

/-- How a growable list is laid out: one contiguous block, or a ring buffer. -/
inductive ListLayout where
  | contiguous
  | ring
  deriving DecidableEq, Repr, Inhabited

/-- How a map or set is laid out: an ordered tree, a hash table seeded at random, or a
hash table with a fixed seed. -/
inductive Layout where
  | tree
  | hash
  | fixedHash
  deriving DecidableEq, Repr, Inhabited

/-- A type description. -/
inductive Shape where
  | scalar (s : Scalar)
  | record (r : Record)
  /-- A growable list of elements of one shape. -/
  | list (layout : ListLayout) (item : Shape)
  /-- A growable list that declares no element shape; it can hold anything. -/
  | untypedList
  /-- A list of exactly `capacity` elements. -/
  | array (item : Shape) (capacity : Nat)
  | option (inner : Shape)
  | map (layout : Layout) (key value : Shape)
  | set (layout : Layout) (item : Shape)
  /-- A table from text keys to text values, ordered by key. -/
  | properties
  deriving DecidableEq, Repr, Inhabited

/-- What a shape is, in the coarse sense that decides how paths treat it. -/
inductive Kind where
  | record
  | list
  | set
  | map
  | array
  | properties
  | optional
  | scalar
  deriving DecidableEq, Repr, Inhabited

namespace Kind

/-- The word for a kind in messages. -/
def word : Kind → String
  | record => "record"
  | list => "list"
  | set => "set"
  | map => "map"
  | array => "array"
  | properties => "properties"
  | optional => "optional"
  | scalar => "scalar"

/-- Containers are the kinds whose elements a subscript selects. -/
def isContainer : Kind → Bool
  | list | set | map | array | properties => true
  | _ => false

end Kind

/-- Read and write permissions of a record field. -/
inductive Access where
  | readWrite
  | readOnly
  | writeOnly
  deriving DecidableEq, Repr, Inhabited

namespace Access

def readable : Access → Bool
  | writeOnly => false
  | _ => true

def writable : Access → Bool
  | readOnly => false
  | _ => true

/-- The words for an access mode in answers. -/
def word : Access → String
  | readWrite => "read-write"
  | readOnly => "read-only"
  | writeOnly => "write-only"

end Access

namespace Shape

/-- The full path of a shape, as answers print it. -/
def path : Shape → String
  | scalar s => s.path
  | record r => r.path
  | list .contiguous t => s!"alloc::vec::Vec<{t.path}>"
  | list .ring t => s!"alloc::collections::VecDeque<{t.path}>"
  | untypedList => "pw_reflect::ops::DynamicList"
  | array t n => s!"[{t.path}; {n}]"
  | option t => s!"core::option::Option<{t.path}>"
  | map .tree k v => s!"alloc::collections::BTreeMap<{k.path}, {v.path}>"
  | map .hash k v => s!"std::collections::HashMap<{k.path}, {v.path}, std::hash::RandomState>"
  | map .fixedHash k v =>
    s!"hashbrown::HashMap<{k.path}, {v.path}, pw_utils::hash::FixedHashState>"
  | set .tree t => s!"alloc::collections::BTreeSet<{t.path}>"
  | set .hash t => s!"std::collections::HashSet<{t.path}, std::hash::RandomState>"
  | set .fixedHash t => s!"hashbrown::HashSet<{t.path}, pw_utils::hash::FixedHashState>"
  | properties => "pw_reflect::ops::Properties"

/-- The short name of a shape.  Different shapes can share one: both hash layouts of a
map are `HashMap<K, V>`. -/
def name : Shape → String
  | scalar s => s.name
  | record r => r.name
  | list .contiguous t => s!"Vec<{t.name}>"
  | list .ring t => s!"VecDeque<{t.name}>"
  | untypedList => "DynamicList"
  | array t n => s!"[{t.name}; {n}]"
  | option t => s!"Option<{t.name}>"
  | map .tree k v => s!"BTreeMap<{k.name}, {v.name}>"
  | map _ k v => s!"HashMap<{k.name}, {v.name}>"
  | set .tree t => s!"BTreeSet<{t.name}>"
  | set _ t => s!"HashSet<{t.name}>"
  | properties => "Properties"

/-- The kind of a shape. -/
def kind : Shape → Kind
  | scalar _ => .scalar
  | record _ => .record
  | list .. | untypedList => .list
  | array .. => .array
  | option _ => .optional
  | map .. => .map
  | set .. => .set
  | properties => .properties

/-- The shape under all `Option` layers. -/
def unwrap : Shape → Shape
  | option t => t.unwrap
  | s => s

/-- The declared parameters of a shape, by name: `T` for the element of a list, set,
array or option, `K` and `V` for a map.  An untyped list declares none. -/
def generics : Shape → List (String × Shape)
  | list _ t | array t _ | option t | set _ t => [("T", t)]
  | map _ k v => [("K", k), ("V", v)]
  | _ => []

/-- The shape of `usize`, which indexes lists and measures them. -/
abbrev usize : Shape := scalar (.int .usize)

/-- The shape of text. -/
abbrev string : Shape := scalar .string

@[simp] theorem unwrap_option (t : Shape) : (option t).unwrap = t.unwrap := rfl

theorem kind_unwrap_ne_optional (s : Shape) : s.unwrap.kind ≠ .optional := by
  induction s <;> simp_all [unwrap, kind]

end Shape

end ValuePaths
