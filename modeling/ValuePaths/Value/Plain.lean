import ValuePaths.Value.Basic
import ValuePaths.Number.Shortest
import ValuePaths.Text.Escape

/-!
# The plain data form of a value

Answers show values as plain data: null, truth values, whole numbers, text, lists and
objects with named members.  The form of a value:

* truth values and integers of every width as themselves, characters and text as text,
  floats as the text of their shortest decimal;
* a record as an object with its fields in declaration order, write-only ones included;
* lists, untyped lists and arrays as lists in order;
* an unset option as null, a set one as the object `{"Some": value}`;
* sets as lists, maps and text tables as lists of `[key, value]` pairs, both sorted by
  the compact text of each member.

The compact text writes no blanks and quotes text in the compact data form.

## Main definitions

* `Plain` — plain data, and `Plain.compact`, its compact text.
* `Value.toPlain` — the plain form of a value.
-/

namespace ValuePaths

variable [Catalogue]

/-- Plain data. -/
inductive Plain where
  | null
  | bool (b : Bool)
  | int (n : Int)
  | text (s : String)
  | list (items : List Plain)
  | object (members : List (String × Plain))
  deriving Repr, Inhabited

namespace Plain

mutual
/-- The compact text of plain data. -/
def compact : Plain → String
  | null => "null"
  | bool b => toString b
  | int n => toString n
  | text s => Text.dataQuote s
  | list items => "[" ++ ",".intercalate (compactList items) ++ "]"
  | object members => "\x7b" ++ ",".intercalate (compactMembers members) ++ "\x7d"

/-- The compact texts of a list of items. -/
def compactList : List Plain → List String
  | [] => []
  | p :: ps => compact p :: compactList ps

/-- The compact texts of object members, `"name":value`. -/
def compactMembers : List (String × Plain) → List String
  | [] => []
  | (k, p) :: ms => (Text.dataQuote k ++ ":" ++ compact p) :: compactMembers ms
end

/-- Items sorted by their compact text. -/
def sortByText (items : List Plain) : List Plain :=
  ((items.map fun p => (p.compact, p)).mergeSort fun a b => decide (a.1 ≤ b.1)).map (·.2)

end Plain

namespace Value

mutual
/-- The plain form of a value. -/
def toPlain : Value → Plain
  | bool b => .bool b
  | char c => .text (String.singleton c)
  | int _ n => .int n
  | f32 bits => .text (BinaryFormat.single.render bits.toNat)
  | f64 bits => .text (BinaryFormat.double.render bits.toNat)
  | string s => .text s
  | record r fields => .object (plainFields (r.fields.map (·.name)) fields)
  | list _ _ items => .list (plainList items)
  | untypedList items => .list (plainList items)
  | array _ items => .list (plainList items)
  | option _ none => .null
  | option _ (some v) => .object [("Some", toPlain v)]
  | map _ _ _ entries => .list (Plain.sortByText (plainEntries entries))
  | set _ _ members => .list (Plain.sortByText (plainList members))
  | properties entries =>
    .list (Plain.sortByText (entries.map fun (k, v) => .list [.text k, .text v]))

/-- The plain forms of a list of values. -/
def plainList : List Value → List Plain
  | [] => []
  | v :: vs => toPlain v :: plainList vs

/-- Map entries as `[key, value]` pairs. -/
def plainEntries : List (Value × Value) → List Plain
  | [] => []
  | (k, v) :: es => .list [toPlain k, toPlain v] :: plainEntries es

/-- Record fields as named members. -/
def plainFields : List String → List Value → List (String × Plain)
  | n :: ns, v :: vs => (n, toPlain v) :: plainFields ns vs
  | _, _ => []
end

end Value

end ValuePaths
