import TreeDump.FieldType
import TreeDump.Number.Decimal
import TreeDump.Number.Shortest

/-!
# Scalar values

A scalar is a value of one of the catalog's types. Equality is that of the values as numbers, so a
double that is no number differs from itself and the two zeros are equal.
-/

namespace TreeDump

/-- A value of a type of the catalog. -/
inductive Scalar where
  | int (value : Int32)
  | long (value : Int64)
  | double (value : Binary64)
  | uInt (value : UInt32)
  | uLong (value : UInt64)
  | identifier (name : String)
  | bool (value : Bool)
deriving DecidableEq

namespace Scalar

def type : Scalar → FieldType
  | int _ => .int
  | long _ => .long
  | double _ => .double
  | uInt _ => .uInt
  | uLong _ => .uLong
  | identifier _ => .identifier
  | bool _ => .bool

def boolText : Bool → String
  | true => "1"
  | false => "0"

/-- The canonical text of a value. An identifier is its own. -/
def canonical : Scalar → String
  | int value => Decimal.ofInt value.toInt
  | long value => Decimal.ofInt value.toInt
  | double value => value.text
  | uInt value => Decimal.ofNat value.toNat
  | uLong value => Decimal.ofNat value.toNat
  | identifier name => name
  | bool value => boolText value

/-- The text of a value by a rule: what has no raw text takes its canonical one. -/
def textBy : TextRule → Scalar → String
  | .raw, identifier name => name
  | _, value => value.canonical

def text (value : Scalar) : String := value.textBy value.type.textRule

/-- Equality of values: types and numbers agree. -/
def equal : Scalar → Scalar → Bool
  | double x, double y => x.equal y
  | x, y => x = y

end Scalar

end TreeDump
