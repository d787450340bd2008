import TreeDump.Program.Basic
import TreeDump.Schema.Basic

/-!
# The printer program of a schema

Each descriptor gives one arm, in order, and each declared field one statement. The catalog of types
is imported if any descriptor declares a scalar.
-/

namespace TreeDump

namespace ScalarField

def statement (field : ScalarField) : Statement :=
  match field.cardinality, field.type.textRule with
  | .single, .raw => .identifier field.name field.name 1
  | .single, .canonical => .scalar field.name field.name field.type 1
  | .list, .raw => .scalars field.name field.type 1 field.type.name .text 2
  | .list, .canonical => .scalars field.name field.type 1 field.type.name .canonical 2

end ScalarField

namespace ChildField

def statement (field : ChildField) : Statement :=
  match field.cardinality with
  | .single => .child field.name 0
  | .list => .children field.name 1 1
  | .dict => .dict field.name 1 2 2

end ChildField

namespace Descriptor

/-- The arm of a descriptor: the heading, then the scalars, then the children. -/
def arm (descriptor : Descriptor) : Arm where
  tag := descriptor.name
  body := .heading descriptor.name 0 ::
    (descriptor.scalars.map ScalarField.statement ++
      descriptor.children.map ChildField.statement)

end Descriptor

namespace Schema

/-- The printer program of a schema. -/
def program (schema : Schema) : Program where
  importsTypes := schema.descriptors.any fun descriptor => !descriptor.scalars.isEmpty
  arms := schema.descriptors.map Descriptor.arm

end Schema

end TreeDump
