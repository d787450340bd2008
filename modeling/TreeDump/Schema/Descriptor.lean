import TreeDump.Error
import TreeDump.FieldType

/-!
# Descriptors

A descriptor declares the fields of the nodes of one tag: scalars first, then children, each list
in the order of the dump. Its field names are sound if none is empty and none comes twice, over
both lists together.
-/

namespace TreeDump

/-- How many values a scalar field holds. -/
inductive ScalarCardinality where
  | single
  | list
deriving DecidableEq

/-- How a field holds its children. -/
inductive ChildCardinality where
  | single
  | list
  | dict
deriving DecidableEq

/-- A declared scalar field. -/
structure ScalarField where
  type : FieldType
  name : String
  cardinality : ScalarCardinality
deriving DecidableEq

/-- A declared child field. -/
structure ChildField where
  name : String
  cardinality : ChildCardinality
deriving DecidableEq

/-- The declaration of the nodes of one tag. -/
structure Descriptor where
  name : String
  scalars : List ScalarField
  children : List ChildField
deriving DecidableEq

namespace Descriptor

def fieldNames (descriptor : Descriptor) : List String :=
  descriptor.scalars.map ScalarField.name ++ descriptor.children.map ChildField.name

/-- The first defect of a list of names, given the names before it. -/
def nameDefect? (node : String) (seen : List String) : List String → Option SchemaError
  | [] => none
  | name :: rest =>
    if name = "" then some (.emptyFieldName node)
    else if name ∈ seen then some (.duplicateField node name)
    else nameDefect? node (name :: seen) rest

def defect? (descriptor : Descriptor) : Option SchemaError :=
  nameDefect? descriptor.name [] descriptor.fieldNames

end Descriptor

end TreeDump
