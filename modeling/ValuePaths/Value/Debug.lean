import ValuePaths.Value.Basic
import ValuePaths.Number.Shortest
import ValuePaths.Text.Escape

/-!
# The debug text of a value

Messages show values in a compact programmer's notation: records as
`Leaf { c: 1 }`, lists and arrays as `[1, 2]`, sets as `{1, 2}`, maps and text tables as
`{"a": 1}`, options as `Some(1)` or `None`, text and characters quoted in the debug
form, floats in their shortest form.  Members of sets and maps appear in the order the
container keeps them.

## Main definitions

* `Value.debug` — the debug text of a value.
-/

namespace ValuePaths

variable [Catalogue]

namespace Value

/-- Items between brackets, separated by a comma and a space. -/
def bracketed (opening closing : String) (items : List String) : String :=
  opening ++ ", ".intercalate items ++ closing

mutual
/-- The debug text of a value. -/
def debug : Value → String
  | bool b => toString b
  | char c => Text.debugQuoteChar c
  | int _ n => toString n
  | f32 bits => BinaryFormat.single.render bits.toNat
  | f64 bits => BinaryFormat.double.render bits.toNat
  | string s => Text.debugQuote s
  | record r fields =>
    r.name ++ " \x7b " ++ ", ".intercalate (debugFields (r.fields.map (·.name)) fields) ++ " \x7d"
  | list _ _ items => bracketed "[" "]" (debugList items)
  | untypedList items => bracketed "[" "]" (debugList items)
  | array _ items => bracketed "[" "]" (debugList items)
  | option _ none => "None"
  | option _ (some v) => "Some(" ++ debug v ++ ")"
  | map _ _ _ entries => bracketed "\x7b" "\x7d" (debugEntries entries)
  | set _ _ members => bracketed "\x7b" "\x7d" (debugList members)
  | properties entries =>
    bracketed "\x7b" "\x7d" (entries.map fun (k, v) => Text.debugQuote k ++ ": " ++ Text.debugQuote v)

/-- The debug texts of a list of values. -/
def debugList : List Value → List String
  | [] => []
  | v :: vs => debug v :: debugList vs

/-- The debug texts of map entries, `key: value`. -/
def debugEntries : List (Value × Value) → List String
  | [] => []
  | (k, v) :: es => (debug k ++ ": " ++ debug v) :: debugEntries es

/-- The debug texts of record fields, `name: value`. -/
def debugFields : List String → List Value → List String
  | n :: ns, v :: vs => (n ++ ": " ++ debug v) :: debugFields ns vs
  | _, _ => []
end

end Value

end ValuePaths
