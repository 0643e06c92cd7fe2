import ValuePaths.Shape.Basic

/-!
# The record catalogue

A program declares its record types: the fields of each, in declaration order, with their
shapes and access modes, and whether the record has a default value.  The library reads
them through a `Catalogue`, which every program supplies.  A record may refer to itself
through a container, so record shapes name records instead of containing them; outside
containers the records a record holds nest less deeply than it does, as the record types
of a program, being of finite size, must.

## Main definitions

* `Field` — a named, typed member of a record.
* `Shape.directRecords` — the records a shape holds outside any container.
* `Catalogue` — the record types of a program, with the laws they obey.
* `Record.fields`, `Record.hasDefault`, `Record.catalogue` — what the catalogue says of a
  record, and every record, in the order the registry enrols them.
-/

namespace ValuePaths

/-- A named member of a record. -/
structure Field where
  name : String
  access : Access
  shape : Shape
  deriving DecidableEq, Repr, Inhabited

namespace Shape

/-- The records a default of the shape holds directly, outside any list, option, map or
set: a record, or the records the elements of an array hold so. -/
def directRecords : Shape → List Record
  | record r => [r]
  | array t _ => t.directRecords
  | _ => []

end Shape

/-- The record types of a program. -/
class Catalogue where
  /-- The fields of a record, in declaration order. -/
  fields : Record → List Field
  /-- Whether the registry can create a default value of the record. -/
  hasDefault : Record → Bool
  /-- Every record type of the program, in the order the registry enrols them all at once. -/
  records : List Record
  /-- How deeply the records a record holds outside containers nest. -/
  depth : Record → Nat
  /-- The records a field holds outside containers nest less deeply than the record. -/
  depth_lt : ∀ r, ∀ f ∈ fields r, ∀ r' ∈ f.shape.directRecords, depth r' < depth r
  /-- A record that is not a type of the program has no fields. -/
  fields_eq_nil : ∀ r, r ∉ records → fields r = []

namespace Record

variable [Catalogue]

/-- The fields of a record, in declaration order. -/
def fields (r : Record) : List Field := Catalogue.fields r

/-- Whether the registry can create a default value of the record. -/
def hasDefault (r : Record) : Bool := Catalogue.hasDefault r

/-- The field of a record with a given name. -/
def field? (r : Record) (name : String) : Option Field :=
  r.fields.find? (·.name == name)

/-- Every record, in the order the registry enrols them all at once. -/
def catalogue : List Record := Catalogue.records

end Record

end ValuePaths
