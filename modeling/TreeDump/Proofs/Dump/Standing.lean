import TreeDump.Dump.Constant
import TreeDump.Proofs.Number.DecimalReading
import TreeDump.Proofs.Tree.Reading

/-!
# What entries of constant tables stand for

An entry stands for a string if its symbol has a constant attribute with a string initializer, and
for a double if its symbol has no constant attribute and its object is a constant double. An entry
that stands for neither is refused. If a field has to be read on the way and has not the shape that
is asked for, that is what is reported, and else what is wrong with the entry, under its key.
-/

namespace TreeDump

namespace Node

/-- A node has a field for a single child, and in it that child or none. -/
def HasChild (node : Node) (field : String) (child : Option Node) : Prop :=
  node.layer.children.get? field = some (.single child)

/-- A node has a child with a tag in a field for a single child. -/
def HasTagged (node : Node) (field tag : String) (child : Node) : Prop :=
  node.HasChild field (some child) ∧ child.tag = tag

end Node

namespace Constant

/-- The byte of an element of a string literal: a number from -128 to 255, modulo 256. -/
def IsByte (element : Scalar) (byte : UInt8) : Prop :=
  ∃ value : Int32, element = .int value ∧ -128 ≤ value.toInt ∧ value.toInt ≤ 255 ∧
    (byte.toNat : Int) = value.toInt % 256

/-- The bytes of a string literal. -/
def HasBytes (literal : Node) (bytes : List UInt8) : Prop :=
  ∃ elements, literal.layer.scalars.get? "value" = some (.list elements) ∧
    List.Forall₂ IsByte elements bytes

/-- The string literal of a constant attribute. -/
def HasLiteral (attributes literal : Node) : Prop :=
  ∃ initializer, attributes.HasTagged "static_init" "StringInit" initializer ∧
    initializer.HasTagged "literal" "CStringLiteral" literal

/-- An object of the back end that is a constant double. -/
structure IsDouble (object : Node) : Prop where
  tag : object.tag = "BackendObj"
  constant : object.layer.scalars.get? "is_constant" = some (.single (.bool true))
  double : ∃ type, object.HasTagged "assembly_type" "BackendDouble" type

section Entry

variable (symbols objects : Table Node) (key symbol : String)

/-- The constant attribute of a symbol. -/
def HasAttribute (attributes : Node) : Prop :=
  ∃ entry, symbols.get? symbol = some entry ∧ entry.HasTagged "attrs" "ConstantAttr" attributes

/-- A symbol that is not in the table, or whose attribute is absent or not that of a constant. -/
def LacksAttribute : Prop :=
  ∀ entry ∈ symbols.get? symbol, ∃ child, entry.HasChild "attrs" child ∧
    ∀ attributes ∈ child, attributes.tag ≠ "ConstantAttr"

/-- What an entry stands for. -/
inductive Stands : Constant → Prop where
  | string {attributes literal : Node} {bytes : List UInt8} :
      HasAttribute symbols symbol attributes → HasLiteral attributes literal →
      HasBytes literal bytes → Stands (.string bytes)
  | double {object : Node} {value : Binary64} :
      LacksAttribute symbols symbol → objects.get? symbol = some object → IsDouble object →
      Decimal.Denotes key value.bits.toNat → Stands (.double value)

/-- The fields that are read to find out what an entry stands for, each in the shape in which it is
asked for. -/
inductive Consults : Node → String → FieldShape → Prop where
  | attributes {entry : Node} :
      symbols.get? symbol = some entry → Consults entry "attrs" .child
  | initializer {attributes : Node} :
      HasAttribute symbols symbol attributes → Consults attributes "static_init" .child
  | literal {attributes initializer : Node} :
      HasAttribute symbols symbol attributes →
      attributes.HasTagged "static_init" "StringInit" initializer →
      Consults initializer "literal" .child
  | elements {attributes literal : Node} :
      HasAttribute symbols symbol attributes → HasLiteral attributes literal →
      Consults literal "value" (.scalars .int)
  | constancy {object : Node} :
      LacksAttribute symbols symbol → objects.get? symbol = some object →
      object.tag = "BackendObj" → Consults object "is_constant" (.scalar .bool)
  | type {object : Node} :
      LacksAttribute symbols symbol → objects.get? symbol = some object →
      object.tag = "BackendObj" → object.layer.HasShape "is_constant" (.scalar .bool) →
      Consults object "assembly_type" .child

/-- What is wrong with an entry that stands for nothing, although its fields can be read. -/
inductive Unfit : ConstantFault → Prop where
  | initializerNotString {attributes : Node} :
      HasAttribute symbols symbol attributes →
      (∀ initializer, ¬ attributes.HasTagged "static_init" "StringInit" initializer) →
      Unfit .initializerNotString
  | literalMissing {attributes initializer : Node} :
      HasAttribute symbols symbol attributes →
      attributes.HasTagged "static_init" "StringInit" initializer →
      (∀ literal, ¬ initializer.HasTagged "literal" "CStringLiteral" literal) →
      Unfit .literalMissing
  | elementNotByte {attributes literal : Node} :
      HasAttribute symbols symbol attributes → HasLiteral attributes literal →
      (∀ bytes, ¬ HasBytes literal bytes) → Unfit .elementNotByte
  | symbolMissing :
      LacksAttribute symbols symbol →
      (∀ object ∈ objects.get? symbol, object.tag ≠ "BackendObj") → Unfit (.symbolMissing symbol)
  | objectNotDouble {object : Node} :
      LacksAttribute symbols symbol → objects.get? symbol = some object →
      object.tag = "BackendObj" → ¬ IsDouble object → Unfit .objectNotDouble
  | keyNotBits {object : Node} :
      LacksAttribute symbols symbol → objects.get? symbol = some object → IsDouble object →
      (∀ value : Binary64, ¬ Decimal.Denotes key value.bits.toNat) → Unfit .keyNotBits

/-- How the dump ends at an entry that stands for nothing. -/
inductive Refused : DumpError → Prop where
  | unreadable {node : Node} {field : String} {shape : FieldShape} :
      Consults symbols objects symbol node field shape → ¬ node.layer.HasShape field shape →
      Refused (.fieldMismatch node.tag field shape)
  | unfit {fault : ConstantFault} :
      (∀ node field shape, Consults symbols objects symbol node field shape →
        node.layer.HasShape field shape) →
      Unfit symbols objects key symbol fault → Refused (.formatMismatch key fault)

end Entry

end Constant

end TreeDump
