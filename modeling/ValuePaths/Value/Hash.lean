import ValuePaths.Value.Basic
import ValuePaths.Hash.Fold
import ValuePaths.Value.Table

/-!
# Hashing values into fixed-seed tables

A key is fed to the hasher the way its type hashes itself: an integer as a number of its
width in two's complement, a truth value as one byte, a character as 32 bits, text as its
bytes, a record field by field, an option as its variant number (64 bits) and then its
inner value.  Floats and containers are never keys of a fixed-seed table and feed
nothing.

A table starts with more buckets when its entries are narrow, so the width of an entry in
bytes matters for entries of at most three bytes: truth values and integers of eight or
sixteen bits, records made of them, and pairs of them (a map entry is the pair of key and
value), each rounded up to a multiple of its widest part.

## Main definitions

* `Value.feed`, `Value.tableHash` — the hash of a key.
* `Shape.narrowWidth` — the width of a narrow entry.
* `Shape.setLeast`, `Shape.mapLeast` — the least capacity of a fixed-seed table.
* `FixedTable.probing` — the fixed-seed tables, with these hashes and capacities.
-/

namespace ValuePaths

variable [Catalogue]

namespace Value

mutual
/-- Feeds a value to a hasher, as its type hashes itself. -/
def feed : Value → Hash.Hasher → Hash.Hasher
  | bool b, h => h.number 8 (if b then 1 else 0)
  | char c, h => h.number 32 c.toNat
  | int t n, h =>
    let u := (n % (Nat.pow 2 t.bits : Int)).toNat
    if t.bits = 128 then h.wide u else h.number t.bits u
  | string s, h => h.text s
  | record _ fields, h => feedAll fields h
  | option _ none, h => h.number 64 0
  | option _ (some v), h => feed v (h.number 64 1)
  | _, h => h

/-- Feeds values in order. -/
def feedAll : List Value → Hash.Hasher → Hash.Hasher
  | [], h => h
  | v :: vs, h => feedAll vs (feed v h)
end

/-- The hash that places a key in a fixed-seed table. -/
def tableHash (v : Value) : Nat := (feed v Hash.Hasher.start).finish.toNat

end Value

namespace Shape

/-- The width in bytes of a value of a scalar shape of at most two bytes. -/
def scalarWidth : Shape → Option Nat
  | scalar .bool => some 1
  | scalar (.int t) => if t.bits ≤ 16 then some (t.bits / 8) else none
  | _ => none

/-- The width of parts laid out together, rounded up to a multiple of the widest part,
when every part is narrow. -/
def packed (parts : List (Option Nat)) : Option Nat :=
  match parts.mapM id with
  | some ws =>
    let align := ws.foldl max 1
    let total := ws.foldl (· + ·) 0
    some ((total + align - 1) / align * align)
  | none => none

/-- The width in bytes of a value of a shape, when it is at most three; none for wider
values. -/
def narrowWidth (s : Shape) : Option Nat :=
  let w := match s with
    | record r => packed (r.fields.map (·.shape.scalarWidth))
    | s => s.scalarWidth
  match w with
  | some n => if n ≤ 3 then some n else none
  | none => none

/-- The least capacity of a fixed-seed table whose entries take the width given, or more
than three bytes. -/
def leastOf (width : Option Nat) : Nat :=
  match width with
  | some n => Buckets.leastFor n
  | none => Buckets.leastFor 4

/-- The least capacity of a fixed-seed set of members of shape `t`. -/
def setLeast (t : Shape) : Nat := leastOf t.narrowWidth

/-- The least capacity of a fixed-seed map from `k` to `v`. -/
def mapLeast (k v : Shape) : Nat :=
  leastOf (match packed [k.narrowWidth, v.narrowWidth] with
    | some n => if n ≤ 3 then some n else none
    | none => none)

end Shape

/-- The fixed-seed tables sets and maps are kept in: buckets probed in groups, as many as
the width of the entries asks for, and keys hashed with the fixed seed. -/
def FixedTable.probing : FixedTable where
  insertMember t := Buckets.insert t.setLeast Value.tableHash Value.same
  insertEntry k v :=
    Buckets.insert (Shape.mapLeast k v) (fun e => e.1.tableHash) fun x y => Value.same x.1 y.1
  members _ := Buckets.inserts _ _ _
  entries _ _ := Buckets.inserts _ _ _

instance : Inhabited FixedTable := ⟨.probing⟩

end ValuePaths
