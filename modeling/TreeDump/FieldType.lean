/-!
# The catalog of scalar types

The types that a scalar field may have. The catalog is closed, and each type has one rule for its
text.
-/

namespace TreeDump

/-- The type of a scalar field. -/
inductive FieldType where
  | int
  | long
  | double
  | uInt
  | uLong
  | identifier
  | bool
deriving DecidableEq

/-- How a value turns into text: as it stands, or in the canonical form of its type. -/
inductive TextRule where
  | raw
  | canonical
deriving DecidableEq

namespace FieldType

/-- The types in catalog order. -/
def all : List FieldType := [int, long, double, uInt, uLong, identifier, bool]

/-- The name of a type in descriptor tables and in dumps. -/
def name : FieldType → String
  | int => "TInt"
  | long => "TLong"
  | double => "TDouble"
  | uInt => "TUInt"
  | uLong => "TULong"
  | identifier => "TIdentifier"
  | bool => "Bool"

def ofName? (name : String) : Option FieldType := all.find? fun type => type.name = name

/-- The rule for the text of a type's values: identifiers stand as they are. -/
def textRule : FieldType → TextRule
  | identifier => .raw
  | _ => .canonical

theorem mem_all (type : FieldType) : type ∈ all := by cases type <;> decide

theorem ofName?_name (type : FieldType) : ofName? type.name = some type := by
  cases type <;> decide

theorem ofName?_eq_some_iff {name : String} {type : FieldType} :
    ofName? name = some type ↔ name = type.name := by
  refine ⟨fun h => ?_, fun h => h ▸ ofName?_name type⟩
  have found := List.find?_some (p := fun type : FieldType => decide (type.name = name)) h
  exact (of_decide_eq_true found).symm

end FieldType

end TreeDump
