import TreeDump.Error
import TreeDump.Node.Basic

/-!
# Reading the fields of a node

A field is read as one of five shapes. A field that is missing, or of another shape, or of another
type, is a mismatch that names the tag, the field and the shape that was asked for.
-/

namespace TreeDump

universe u v

namespace ScalarSlot

/-- The value of a slot that holds a single value of a type. -/
def single? (type : FieldType) : ScalarSlot → Option Scalar
  | single value => if value.type = type then some value else none
  | list _ => none

/-- The values of a slot that holds a list of values of one type. -/
def list? (type : FieldType) : ScalarSlot → Option (List Scalar)
  | single _ => none
  | list values => if values.all (·.type = type) then some values else none

end ScalarSlot

namespace ChildSlot

variable {ν : Type u}

/-- The child of a slot for a single child, which may be absent. -/
def single? : ChildSlot ν → Option (Option ν)
  | single child => some child
  | _ => none

def list? : ChildSlot ν → Option (List ν)
  | list items => some items
  | _ => none

def dict? : ChildSlot ν → Option (Table ν)
  | dict entries => some entries
  | _ => none

end ChildSlot

namespace Layer

variable {ν : Type u} {α : Type v}

/-- What was found in a field, or the complaint that the field has not the expected shape. -/
def require (layer : Layer ν) (field : String) (expected : FieldShape) :
    Option α → Except DumpError α
  | some found => .ok found
  | none => .error (.fieldMismatch layer.tag field expected)

def readScalar (layer : Layer ν) (field : String) (type : FieldType) : Except DumpError Scalar :=
  layer.require field (.scalar type) ((layer.scalars.get? field).bind (·.single? type))

def readScalars (layer : Layer ν) (field : String) (type : FieldType) :
    Except DumpError (List Scalar) :=
  layer.require field (.scalars type) ((layer.scalars.get? field).bind (·.list? type))

def readIdentifier (layer : Layer ν) (field : String) : Except DumpError String := do
  match ← layer.readScalar field .identifier with
  | .identifier name => .ok name
  | _ => .error (.fieldMismatch layer.tag field (.scalar .identifier))

/-- The single child in a field, which may be absent. -/
def readChild (layer : Layer ν) (field : String) : Except DumpError (Option ν) :=
  layer.require field .child ((layer.children.get? field).bind ChildSlot.single?)

def readChildren (layer : Layer ν) (field : String) : Except DumpError (List ν) :=
  layer.require field .children ((layer.children.get? field).bind ChildSlot.list?)

def readDict (layer : Layer ν) (field : String) : Except DumpError (Table ν) :=
  layer.require field .dict ((layer.children.get? field).bind ChildSlot.dict?)

end Layer

end TreeDump
