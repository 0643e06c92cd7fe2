import ValuePaths.Shape.Catalog

/-!
# The record types of a sample program

A sample program with eight record types, each named under `pw_oracle`.  `Config` holds a
list of itself, so its catalogue refers to records by name.  Two records hold another record
outside any container, `Root` a `Leaf` and `Config` a `Scalars`; those nest one level deep,
all others none.  `NoDefault` is the one record without a default value.

The catalogue is the instance of `Catalogue` for this program; its laws are checked on the
list of its records, and hold of every other record since those have no fields.
-/

namespace ValuePaths

namespace Sample

/-- A leaf record with one number. -/
def leaf : Record := ⟨"pw_oracle::Leaf", by decide, by decide⟩

/-- A record without a default value. -/
def noDefault : Record := ⟨"pw_oracle::NoDefault", by decide, by decide⟩

/-- A record with a field of every kind, and fields of every access mode. -/
def root : Record := ⟨"pw_oracle::Root", by decide, by decide⟩

/-- A record of two sets of leaves. -/
def roster : Record := ⟨"pw_oracle::Roster", by decide, by decide⟩

/-- A port number. -/
def port : Record := ⟨"pw_oracle::Port", by decide, by decide⟩

/-- A node with ports and labels. -/
def node : Record := ⟨"pw_oracle::Node", by decide, by decide⟩

/-- A record of one field of every scalar type. -/
def scalars : Record := ⟨"pw_oracle::Scalars", by decide, by decide⟩

/-- A configuration, holding a list of configurations. -/
def config : Record := ⟨"pw_oracle::Config", by decide, by decide⟩

open Shape in
/-- Every record type of the program with its fields, in the order the registry enrols
them. -/
def fieldTable : List (Record × List Field) :=
  [(noDefault, [⟨"flag", .readWrite, scalar .bool⟩]),
   (config,
    [⟨"scalars", .readWrite, record scalars⟩,
     ⟨"opt_scalars", .readWrite, option (record scalars)⟩,
     ⟨"maybe", .readWrite, option (scalar (.int .u8))⟩,
     ⟨"deep", .readWrite, option (option (record leaf))⟩,
     ⟨"matrix", .readWrite, list .contiguous (list .contiguous (scalar (.int .i16)))⟩,
     ⟨"grid", .readWrite, array (array (scalar (.int .u8)) 2) 2⟩,
     ⟨"empty_arr", .readWrite, array (scalar (.int .u8)) 0⟩,
     ⟨"deque", .readWrite, list .ring (record leaf)⟩,
     ⟨"by_id", .readWrite, map .tree (scalar (.int .u32)) (record leaf)⟩,
     ⟨"by_name", .readWrite, map .fixedHash string (list .contiguous (scalar (.int .u16)))⟩,
     ⟨"flags", .readWrite, set .fixedHash string⟩,
     ⟨"nums", .readWrite, set .hash (scalar (.int .i64))⟩,
     ⟨"chars", .readWrite, map .tree (scalar .char) (scalar .bool)⟩,
     ⟨"members", .readWrite, set .tree (record leaf)⟩,
     ⟨"nested_map", .readWrite, map .tree string (map .tree string (scalar (.int .u8)))⟩,
     ⟨"opt_list", .readWrite, option (list .contiguous (option (record leaf)))⟩,
     ⟨"nodef", .readWrite, option (record noDefault)⟩,
     ⟨"nodef_list", .readWrite, list .contiguous (record noDefault)⟩,
     ⟨"nodef_map", .readWrite, map .tree string (record noDefault)⟩,
     ⟨"env", .readWrite, option properties⟩,
     ⟨"dyn_list", .readWrite, untypedList⟩,
     ⟨"opt_dyn", .readWrite, option untypedList⟩,
     ⟨"ro_list", .readOnly, list .contiguous (scalar (.int .u8))⟩,
     ⟨"wo_map", .writeOnly, map .tree string (scalar (.int .u8))⟩,
     ⟨"ro_opt_map", .readOnly, option (map .tree string (scalar (.int .u8)))⟩,
     ⟨"length", .readWrite, scalar (.int .u32)⟩,
     ⟨"children", .readWrite, list .contiguous (record config)⟩,
     ⟨"floats", .readWrite, list .contiguous (scalar .f64)⟩,
     ⟨"opt_arr", .readWrite, option (array (option (scalar (.int .u8))) 2)⟩,
     ⟨"list_set", .readWrite, set .tree (list .contiguous (scalar (.int .u8)))⟩,
     ⟨"opt_set", .readWrite, set .tree (option (scalar (.int .u8)))⟩]),
   (scalars,
    [⟨"flag", .readWrite, scalar .bool⟩,
     ⟨"letter", .readWrite, scalar .char⟩,
     ⟨"u8v", .readWrite, scalar (.int .u8)⟩,
     ⟨"u16v", .readWrite, scalar (.int .u16)⟩,
     ⟨"u32v", .readWrite, scalar (.int .u32)⟩,
     ⟨"u64v", .readWrite, scalar (.int .u64)⟩,
     ⟨"u128v", .readWrite, scalar (.int .u128)⟩,
     ⟨"usizev", .readWrite, scalar (.int .usize)⟩,
     ⟨"i8v", .readWrite, scalar (.int .i8)⟩,
     ⟨"i16v", .readWrite, scalar (.int .i16)⟩,
     ⟨"i32v", .readWrite, scalar (.int .i32)⟩,
     ⟨"i64v", .readWrite, scalar (.int .i64)⟩,
     ⟨"i128v", .readWrite, scalar (.int .i128)⟩,
     ⟨"isizev", .readWrite, scalar (.int .isize)⟩,
     ⟨"f32v", .readWrite, scalar .f32⟩,
     ⟨"f64v", .readWrite, scalar .f64⟩,
     ⟨"text", .readWrite, string⟩]),
   (leaf, [⟨"c", .readWrite, scalar (.int .u32)⟩]),
   (node,
    [⟨"ports", .readWrite, list .contiguous (record port)⟩,
     ⟨"labels", .readWrite, option (map .tree string string)⟩,
     ⟨"extra", .readWrite, untypedList⟩]),
   (port, [⟨"number", .readWrite, scalar (.int .u16)⟩]),
   (roster,
    [⟨"members", .readWrite, set .tree (record leaf)⟩,
     ⟨"crew", .readWrite, set .fixedHash (record leaf)⟩]),
   (root,
    [⟨"name", .readWrite, string⟩,
     ⟨"b", .readWrite, list .contiguous (record leaf)⟩,
     ⟨"m", .readWrite, option (map .hash string (scalar (.int .i32)))⟩,
     ⟨"arr", .readWrite, array (scalar (.int .i32)) 3⟩,
     ⟨"tags", .readWrite, list .contiguous string⟩,
     ⟨"ids", .readWrite, set .tree (scalar (.int .u32))⟩,
     ⟨"props", .readWrite, properties⟩,
     ⟨"raw", .readWrite, untypedList⟩,
     ⟨"nested", .readWrite, option (record leaf)⟩,
     ⟨"version", .readOnly, scalar (.int .u32)⟩,
     ⟨"secret", .writeOnly, string⟩,
     ⟨"hidden", .writeOnly, record leaf⟩,
     ⟨"fixed", .readOnly, option (record leaf)⟩])]

/-- The fields of a record of the program; a record of no program has none. -/
def fieldsOf (r : Record) : List Field :=
  ((fieldTable.find? (·.1 == r)).map (·.2)).getD []

/-- How deeply a record's records outside containers nest: `Root` holds a `Leaf` and
`Config` a `Scalars`, which hold none. -/
def depthOf (r : Record) : Nat := if r = root ∨ r = config then 1 else 0

theorem fieldsOf_eq_nil {r : Record} (hr : r ∉ fieldTable.map (·.1)) : fieldsOf r = [] := by
  have hnone : fieldTable.find? (·.1 == r) = none :=
    List.find?_eq_none.mpr fun e he h => hr (List.mem_map.mpr ⟨e, he, by simpa using h⟩)
  simp [fieldsOf, hnone]

theorem depthOf_lt_of_mem :
    ∀ r ∈ fieldTable.map (·.1), ∀ f ∈ fieldsOf r, ∀ r' ∈ f.shape.directRecords,
      depthOf r' < depthOf r := by
  decide

/-- The record types of the sample program. -/
instance catalogue : Catalogue where
  fields := fieldsOf
  hasDefault r := r != noDefault
  records := fieldTable.map (·.1)
  depth := depthOf
  depth_lt r := by
    by_cases hr : r ∈ fieldTable.map (·.1)
    · exact depthOf_lt_of_mem r hr
    · simp [fieldsOf_eq_nil hr]
  fields_eq_nil _ := fieldsOf_eq_nil

end Sample

end ValuePaths
