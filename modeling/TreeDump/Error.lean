import TreeDump.FieldType

/-!
# Causes of failure

What can be wrong with a descriptor, and what can end a dump early. Each cause has one wording.
-/

namespace TreeDump

/-- Why a descriptor is not taken into a schema. -/
inductive SchemaError where
  | duplicateNode (name : String)
  | unknownFieldType (node field type : String)
  | duplicateField (node field : String)
  | emptyFieldName (node : String)
deriving DecidableEq

namespace SchemaError

def message : SchemaError → String
  | duplicateNode name => "node descriptor `" ++ name ++ "` is already registered"
  | unknownFieldType node field type =>
    "node `" ++ node ++ "` declares field `" ++ field ++ "` with unknown type `" ++ type ++ "`"
  | duplicateField node field =>
    "node `" ++ node ++ "` declares field `" ++ field ++ "` more than once"
  | emptyFieldName node => "node `" ++ node ++ "` declares a field with an empty name"

end SchemaError

/-- The shapes that a field of a node may be read as. -/
inductive FieldShape where
  | scalar (type : FieldType)
  | scalars (type : FieldType)
  | child
  | children
  | dict
deriving DecidableEq

namespace FieldShape

def text : FieldShape → String
  | scalar type => "single " ++ type.name
  | scalars type => "list of " ++ type.name
  | child => "single child"
  | children => "list of children"
  | dict => "map of children"

end FieldShape

/-- Why an entry of a constant table stands for no constant. -/
inductive ConstantFault where
  | initializerNotString
  | literalMissing
  | elementNotByte
  | symbolMissing (symbol : String)
  | objectNotDouble
  | keyNotBits
deriving DecidableEq

namespace ConstantFault

def text : ConstantFault → String
  | initializerNotString => "constant attribute does not hold a string initializer"
  | literalMissing => "string initializer has no literal"
  | elementNotByte => "string literal holds a non-byte value"
  | symbolMissing symbol => "no constant symbol `" ++ symbol ++ "`"
  | objectNotDouble => "backend object is not a double constant"
  | keyNotBits => "key is not a 64-bit bit pattern"

end ConstantFault

/-- Why a sink refuses what it is given. -/
inductive SinkFault where
  | full
  | flushFailed
deriving DecidableEq

namespace SinkFault

def text : SinkFault → String
  | full => "disk full"
  | flushFailed => "flush failed"

end SinkFault

/-- Why a dump ends early. All but the refusal of the sink mean that the schema and the nodes have
drifted apart. -/
inductive DumpError where
  | dispatchMismatch (tag : String)
  | fieldMismatch (tag field : String) (expected : FieldShape)
  | formatMismatch (key : String) (fault : ConstantFault)
  | io (fault : SinkFault)
deriving DecidableEq

namespace DumpError

def message : DumpError → String
  | dispatchMismatch tag => "internal error: no printer branch for node tag `" ++ tag ++ "`"
  | fieldMismatch tag field expected =>
    "internal error: node `" ++ tag ++ "` field `" ++ field ++ "`: expected " ++ expected.text
  | formatMismatch key fault => "internal error: constant `" ++ key ++ "`: " ++ fault.text
  | io fault => "failed to write diagnostic output: " ++ fault.text

end DumpError

end TreeDump
