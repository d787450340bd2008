import TreeDump.Dump.Tree
import TreeDump.Program.Basic

/-!
# What printer programs do

A program prints a node by the first arm of its tag, one step below the depth it is given. Each
statement reads its field before it writes, and the first failure ends the dump.
-/

namespace TreeDump

namespace ValueForm

def apply : ValueForm → Scalar → String
  | text, value => value.text
  | canonical, value => value.canonical

end ValueForm

namespace Statement

/-- Carries out a statement on a node whose heading is at a depth. -/
def run (node : Layer Print) (depth : Nat) : Statement → DumpM Unit
  | heading label below => .heading label (depth + below)
  | identifier label field below => do
    let name ← .ofExcept (node.readIdentifier field)
    .field label name (depth + below)
  | scalar label field type below => do
    let value ← .ofExcept (node.readScalar field type)
    .field label value.canonical (depth + below)
  | scalars field type countBelow label form below => do
    let values ← .ofExcept (node.readScalars field type)
    .heading (listLabel values.length) (depth + countBelow)
    values.forM fun value => .field label (form.apply value) (depth + below)
  | child field below => do
    let child ← .ofExcept (node.readChild field)
    Print.optional child (depth + below)
  | children field countBelow below => do
    let items ← .ofExcept (node.readChildren field)
    .heading (listLabel items.length) (depth + countBelow)
    items.forM fun item => item (depth + below)
  | dict field countBelow keyBelow below => do
    let entries ← .ofExcept (node.readDict field)
    .heading (dictLabel entries.size) (depth + countBelow)
    entries.entries.forM fun entry => do
      .heading (keyLabel entry.1) (depth + keyBelow)
      entry.2 (depth + below)

end Statement

namespace Program

/-- Prints a node whose children know how they are printed. -/
def printLayer (program : Program) (node : Layer Print) : Print := fun depth =>
  match program.arms.find? fun arm => arm.tag = node.tag with
  | some arm => arm.body.forM (Statement.run node (depth + 1))
  | none => .ofExcept (.error (.dispatchMismatch node.tag))

/-- Prints a tree that may be absent, below a depth. -/
def printNode (program : Program) (node : Option Node) : Print :=
  .optional (node.map (Node.fold program.printLayer))

end Program

end TreeDump
