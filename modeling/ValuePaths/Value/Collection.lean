import ValuePaths.Value.Hash

/-!
# Sorted members and entries

Sets keep their members, and maps and text tables their entries, each key once: sorted by
key, or for fixed-seed hash tables in bucket order (see `FixedTable`).  Inserting an equal
member keeps the one present; inserting an entry under a present key keeps the key where
it is, replaces its value and hands back the old one.

## Main definitions

* `Members.insert`, `Members.find?` — sorted sets of values.
* `Members.add`, `Members.build` — sets of every placement.
* `Entries.insert`, `Entries.find?` — sorted maps from values to values.
* `Entries.add` — maps of every placement.
* `Table.insert`, `Table.insertAll`, `Table.find?`, `Table.erase` — text tables.
-/

namespace ValuePaths

namespace Members

/-- Inserts a member into a sorted list; the flag tells whether it was new. -/
def insert (v : Value) : List Value → List Value × Bool
  | [] => ([v], true)
  | x :: xs =>
    match Value.cmp v x with
    | .lt => (v :: x :: xs, true)
    | .eq => (x :: xs, false)
    | .gt => let (ys, fresh) := insert v xs; (x :: ys, fresh)

/-- The member equal to `v`. -/
def find? (v : Value) (xs : List Value) : Option Value := xs.find? (Value.same v)

/-- Inserts every value, in order. -/
def insertAll (xs : List Value) (vs : List Value) : List Value :=
  vs.foldl (fun acc v => (insert v acc).1) xs

/-- Adds a member to a set of members of shape `t` kept as `p`; gives the placement and
members after, and whether the member was new.  A fixed-seed table of `tbl` places it as
the table does, a sorted set in order. -/
def add (tbl : FixedTable) (p : Placement) (t : Shape) (v : Value) (ms : List Value) :
    Placement × List Value × Bool :=
  match p with
  | .table b slots =>
    let (b, placed, found) := tbl.insertMember t b (slots.zip ms) v
    (.table b (placed.map (·.1)), placed.map (·.2), found.isNone)
  | p => let (ms, fresh) := insert v ms; (p, ms, fresh)

/-- The set of layout `l` built by adding every value, in order, to an empty one. -/
def build (tbl : FixedTable) (l : Layout) (t : Shape) (vs : List Value) :
    Placement × List Value :=
  vs.foldl (fun acc v => let (p, ms, _) := add tbl acc.1 t v acc.2; (p, ms)) (l.start, [])

end Members

namespace Entries

/-- Inserts an entry into a sorted list, replacing the value of an equal key; gives back
the value it replaced. -/
def insert (k v : Value) : List (Value × Value) → List (Value × Value) × Option Value
  | [] => ([(k, v)], none)
  | (k', v') :: es =>
    match Value.cmp k k' with
    | .lt => ((k, v) :: (k', v') :: es, none)
    | .eq => ((k', v) :: es, some v')
    | .gt => let (rest, old) := insert k v es; ((k', v') :: rest, old)

/-- The value under a key. -/
def find? (k : Value) (es : List (Value × Value)) : Option Value :=
  (es.find? fun e => Value.same k e.1).map (·.2)

/-- Replaces the value under a present key. -/
def update (k v : Value) (es : List (Value × Value)) : List (Value × Value) :=
  es.map fun e => if Value.same k e.1 then (e.1, v) else e

/-- Adds an entry to a map from `kt` to `vt` kept as `p`; gives the placement and entries
after, and the value the key had.  A fixed-seed table of `tbl` places a new key as the
table does; a present key keeps its bucket and takes the new value. -/
def add (tbl : FixedTable) (p : Placement) (kt vt : Shape) (k v : Value)
    (es : List (Value × Value)) : Placement × List (Value × Value) × Option Value :=
  match p with
  | .table b slots =>
    let (b, placed, found) := tbl.insertEntry kt vt b (slots.zip es) (k, v)
    let p := Placement.table b (placed.map (·.1))
    match found with
    | some (_, old) => (p, update k v (placed.map (·.2)), some old)
    | none => (p, placed.map (·.2), none)
  | p => let (es, old) := insert k v es; (p, es, old)

end Entries

namespace Table

/-- Inserts an entry into a text table sorted by key; gives back the value it replaced. -/
def insert (k v : String) : List (String × String) → List (String × String) × Option String
  | [] => ([(k, v)], none)
  | (k', v') :: es =>
    if k < k' then ((k, v) :: (k', v') :: es, none)
    else if k = k' then ((k', v) :: es, some v')
    else let (rest, old) := insert k v es; ((k', v') :: rest, old)

/-- The value under a key. -/
def find? (k : String) (es : List (String × String)) : Option String := es.lookup k

/-- Inserts every entry, in order: of two equal keys the later value stays. -/
def insertAll (es : List (String × String)) (pairs : List (String × String)) :
    List (String × String) :=
  pairs.foldl (fun acc (k, v) => (insert k v acc).1) es

/-- Removes a key; gives back its value. -/
def erase (k : String) (es : List (String × String)) : List (String × String) × Option String :=
  (es.filter (·.1 != k), es.lookup k)

end Table

end ValuePaths
