import ValuePaths.Value.Basic
import ValuePaths.Hash.Buckets

/-!
# Fixed-seed hash tables

A set or a map of the fixed-seed layout keeps its members or entries in a hash table: a
number of buckets, and the entries listed in the order of their buckets.  Which bucket an
entry goes to, when the table grows and how keys are hashed are the table's own.  What
sets and maps rely on is what an insertion does with the entries (`Inserts`): it hands back
the present entry that ties with the new one, keeping the entries, or adds the new one.

## Main definitions

* `FixedTable` — how fixed-seed tables insert members and entries, with those laws.
-/

namespace ValuePaths

/-- How fixed-seed hash tables insert a member into a set of members of shape `t`, and an
entry into a map from `k` to `v`: members tie as values do, entries as their keys do. -/
structure FixedTable where
  insertMember (t : Shape) :
    Nat → List (Nat × Value) → Value → Nat × List (Nat × Value) × Option Value
  insertEntry (k v : Shape) : Nat → List (Nat × (Value × Value)) → Value × Value →
    Nat × List (Nat × (Value × Value)) × Option (Value × Value)
  members (t : Shape) : Inserts Value.same (insertMember t)
  entries (k v : Shape) : Inserts (fun x y => Value.same x.1 y.1) (insertEntry k v)

end ValuePaths
