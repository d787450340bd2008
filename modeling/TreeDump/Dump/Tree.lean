import TreeDump.Dump.Line
import TreeDump.Node.Fields
import TreeDump.Schema.Basic

/-!
# Dumps of trees

A node is printed by the descriptor of its tag: a heading one step below the depth it is given, then
the declared scalars and the declared children in order, below the heading. An absent child prints
as `None`. A field is read before its first line is written, so a field that cannot be read leaves
no line.
-/

namespace TreeDump

/-- How a tree is printed below a given depth, which has no bound here; see `indentText`. -/
abbrev Print := Nat → DumpM Unit

/-- How a tree that may be absent is printed. -/
def Print.optional : Option Print → Print
  | some print, depth => print depth
  | none, depth => .heading "None" (depth + 1)

namespace ScalarField

/-- Prints a declared scalar of a node whose heading is at a depth. -/
def print (field : ScalarField) {ν : Type} (node : Layer ν) (depth : Nat) : DumpM Unit :=
  match field.cardinality with
  | .single => do
    let value ← .ofExcept (node.readScalar field.name field.type)
    .field field.name value.text (depth + 1)
  | .list => do
    let values ← .ofExcept (node.readScalars field.name field.type)
    .heading (listLabel values.length) (depth + 1)
    values.forM fun value => .field field.type.name value.text (depth + 2)

end ScalarField

namespace Print

/-- Prints the children of a list whose owner's heading is at a depth. -/
def items (items : List Print) (depth : Nat) : DumpM Unit := do
  .heading (listLabel items.length) (depth + 1)
  items.forM fun item => item (depth + 1)

/-- Prints an entry of a map, with its key at a depth. -/
def entry (entry : String × Print) (depth : Nat) : DumpM Unit := do
  .heading (keyLabel entry.1) depth
  entry.2 depth

/-- Prints the children of a map whose owner's heading is at a depth. -/
def dict (entries : Table Print) (depth : Nat) : DumpM Unit := do
  .heading (dictLabel entries.size) (depth + 1)
  entries.entries.forM fun entry => Print.entry entry (depth + 2)

end Print

namespace ChildField

/-- Prints a declared child field of a node whose heading is at a depth. -/
def print (field : ChildField) (node : Layer Print) (depth : Nat) : DumpM Unit :=
  match field.cardinality with
  | .single => do
    let child ← .ofExcept (node.readChild field.name)
    Print.optional child depth
  | .list => do
    let items ← .ofExcept (node.readChildren field.name)
    Print.items items depth
  | .dict => do
    let entries ← .ofExcept (node.readDict field.name)
    Print.dict entries depth

end ChildField

namespace Descriptor

/-- Prints a node by its descriptor, with the heading at a depth. -/
def print (descriptor : Descriptor) (node : Layer Print) (depth : Nat) : DumpM Unit := do
  .heading descriptor.name depth
  descriptor.scalars.forM fun field => field.print node depth
  descriptor.children.forM fun field => field.print node depth

end Descriptor

namespace Schema

/-- Prints a node whose children know how they are printed. -/
def printLayer (schema : Schema) (node : Layer Print) : Print := fun depth =>
  match schema.get? node.tag with
  | some descriptor => descriptor.print node (depth + 1)
  | none => .ofExcept (.error (.dispatchMismatch node.tag))

/-- Prints a tree that may be absent, below a depth. -/
def printNode (schema : Schema) (node : Option Node) : Print :=
  .optional (node.map (Node.fold schema.printLayer))

/-- Dumps a tree under a title. -/
def printTree (schema : Schema) (root : Option Node) (title : String) : DumpM Unit :=
  .titled title (schema.printNode root 0)

end Schema

end TreeDump
