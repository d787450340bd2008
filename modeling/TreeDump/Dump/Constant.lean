import TreeDump.Dump.Line
import TreeDump.Node.Fields
import TreeDump.Text.StringBytes

/-!
# Constants

An entry of a constant table names a symbol. A symbol with a constant attribute stands for the
string of its initializer; any other must be a constant double object of the back end, whose bits
are the entry's key. The two ways exclude each other: an entry whose symbol has a constant attribute
is a string or a fault.
-/

namespace TreeDump

/-- What an entry of a constant table stands for. -/
inductive Constant where
  | string (bytes : List UInt8)
  | double (value : Binary64)

namespace Constant

/-- The complaint that an entry stands for no constant. -/
def refuse {α : Type} (key : String) (fault : ConstantFault) : Except DumpError α :=
  .error (.formatMismatch key fault)

/-- The node with a tag in a field for a single child, or the fault. -/
def taggedChild (key : String) (node : Node) (field tag : String) (fault : ConstantFault) :
    Except DumpError Node := do
  match ← node.layer.readChild field with
  | some child => if child.tag = tag then .ok child else refuse key fault
  | none => refuse key fault

/-- The byte of an element of a string literal, which may be written as a signed one. -/
def byte (key : String) : Scalar → Except DumpError UInt8
  | .int value =>
    if -128 ≤ value.toInt ∧ value.toInt ≤ 255 then .ok (UInt8.ofNat (value.toInt % 256).toNat)
    else refuse key .elementNotByte
  | _ => refuse key .elementNotByte

def stringBytes (key : String) (initializer : Node) : Except DumpError (List UInt8) := do
  let literal ← taggedChild key initializer "literal" "CStringLiteral" .literalMissing
  let elements ← literal.layer.readScalars "value" .int
  elements.mapM (byte key)

/-- The double whose bits a key gives in decimal. -/
def doubleOfKey (key : String) : Except DumpError Binary64 :=
  match Decimal.read? key with
  | some bits => if bits < UInt64.size then .ok ⟨UInt64.ofNat bits⟩ else refuse key .keyNotBits
  | none => refuse key .keyNotBits

/-- The constant attribute of a symbol that is in the table and has one. -/
def attribute? (symbol : String) (symbols : Table Node) : Except DumpError (Option Node) :=
  match symbols.get? symbol with
  | none => .ok none
  | some entry => do
    let attributes ← entry.layer.readChild "attrs"
    return attributes.filter (·.tag = "ConstantAttr")

/-- The constant of a back-end object that holds a constant double. -/
def backEndDouble (key symbol : String) (objects : Table Node) : Except DumpError Binary64 :=
  match (objects.get? symbol).filter (·.tag = "BackendObj") with
  | none => refuse key (.symbolMissing symbol)
  | some object => do
    let isConstant ← object.layer.readScalar "is_constant" .bool
    let type ← object.layer.readChild "assembly_type"
    if isConstant = .bool true ∧ type.any (·.tag = "BackendDouble") then doubleOfKey key
    else refuse key .objectNotDouble

/-- The constant that an entry stands for, given the symbols of the front end and those of the back
end. -/
def resolve (key symbol : String) (symbols objects : Table Node) : Except DumpError Constant := do
  match ← attribute? symbol symbols with
  | some attributes =>
    let initializer ←
      taggedChild key attributes "static_init" "StringInit" .initializerNotString
    return .string (← stringBytes key initializer)
  | none => return .double (← backEndDouble key symbol objects)

def print : Constant → Nat → DumpM Unit
  | string bytes, depth => do
    .indent depth
    .write "string: \""
    .writeBytes (StringBytes.encode bytes).toByteArray
    .write "\""
  | double value, depth => .field "double" value.text depth

end Constant

end TreeDump
