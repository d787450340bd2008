import TreeDump.Schema.NodeSpec

/-!
# Schemas

A schema is the list of the descriptors that it has taken, in the order in which it took them. It
takes a descriptor if no earlier one has its name and its field names are sound. What it has taken
it keeps, and a rejection changes nothing.
-/

namespace TreeDump

/-- The descriptors taken so far, in order. -/
structure Schema where
  descriptors : List Descriptor
deriving DecidableEq

namespace Schema

def empty : Schema := ⟨[]⟩

instance : Inhabited Schema := ⟨empty⟩

def size (schema : Schema) : Nat := schema.descriptors.length

def names (schema : Schema) : List String := schema.descriptors.map Descriptor.name

def get? (schema : Schema) (name : String) : Option Descriptor :=
  schema.descriptors.find? fun descriptor => descriptor.name = name

/-- The schema with one more descriptor, unless that is unsound. A name that is taken is reported
before any defect of the fields. -/
def register (schema : Schema) (descriptor : Descriptor) : Except SchemaError Schema :=
  if (schema.get? descriptor.name).isSome then .error (.duplicateNode descriptor.name)
  else match descriptor.defect? with
    | some error => .error error
    | none => .ok ⟨schema.descriptors ++ [descriptor]⟩

/-- The schema with the descriptor of one more table row. -/
def registerSpec (schema : Schema) (spec : NodeSpec) : Except SchemaError Schema := do
  schema.register (← spec.descriptor)

/-- The schema of descriptors taken one after the other, up to the first rejection. -/
def ofDescriptors (descriptors : List Descriptor) : Except SchemaError Schema :=
  descriptors.foldlM register empty

/-- The schema of a descriptor table, up to the first rejection. -/
def ofSpecs (specs : List NodeSpec) : Except SchemaError Schema :=
  specs.foldlM registerSpec empty

end Schema

end TreeDump
