import TreeDump.Schema.Descriptor

/-!
# Table rows for descriptors

A row of a descriptor table writes the cardinality of a field as a mark before its name: `[` for a
list, and for children also `(` for a map. One mark is read, and what follows it is the name.
-/

namespace TreeDump

/-- A row of a descriptor table: a node's name, the types and marked names of its scalars, and the
marked names of its children. -/
structure NodeSpec where
  name : String
  scalars : List (String × String)
  children : List String
deriving DecidableEq

namespace ScalarCardinality

/-- The cardinality that a marked name gives and the name itself. -/
def ofMarked (marked : String) : ScalarCardinality × String :=
  match marked.toList with
  | '[' :: name => (.list, String.ofList name)
  | _ => (.single, marked)

end ScalarCardinality

namespace ChildField

def ofMarked (marked : String) : ChildField :=
  match marked.toList with
  | '[' :: name => ⟨String.ofList name, .list⟩
  | '(' :: name => ⟨String.ofList name, .dict⟩
  | _ => ⟨marked, .single⟩

end ChildField

namespace NodeSpec

/-- The scalar field of a type name and a marked name. -/
def scalarField (node : String) (entry : String × String) : Except SchemaError ScalarField :=
  let (cardinality, name) := ScalarCardinality.ofMarked entry.2
  match FieldType.ofName? entry.1 with
  | some type => .ok ⟨type, name, cardinality⟩
  | none => .error (.unknownFieldType node name entry.1)

/-- The descriptor of a row, unless a type is not in the catalog. -/
def descriptor (spec : NodeSpec) : Except SchemaError Descriptor := do
  let scalars ← spec.scalars.mapM (scalarField spec.name)
  return ⟨spec.name, scalars, spec.children.map ChildField.ofMarked⟩

end NodeSpec

end TreeDump
