import TreeDump.Dump.Constant
import TreeDump.Dump.Tree

/-!
# Dumps of tables

The tables of the compiler under a title each: nodes by name, constants by key, and sets of names.
Every table begins with its count, and the entries stand one step below it.
-/

namespace TreeDump

def tableLabel (count : Nat) : String := "Dict(" ++ Decimal.ofNat count ++ ")"

def setLabel (count : Nat) : String := "Set(" ++ Decimal.ofNat count ++ ")"

/-- The depth of the keys in a table. -/
def entryDepth : Nat := 2

namespace Schema

def printEntries (schema : Schema) (table : Table Node) : DumpM Unit :=
  table.entries.forM fun entry => do
    .heading (keyLabel entry.1) entryDepth
    schema.printNode (some entry.2) entryDepth

/-- Dumps a table of nodes under a title. -/
def dumpTable (schema : Schema) (table : Table Node) (title : String) : DumpM Unit :=
  .titled title do
    .heading (tableLabel table.size) 1
    schema.printEntries table

end Schema

/-- Prints an entry of a constant table as the literal that it stands for. -/
def Constant.printEntry (symbols objects : Table Node) (entry : String × String) : DumpM Unit := do
  .heading (keyLabel entry.1) entryDepth
  let constant ← .ofExcept (resolve entry.1 entry.2 symbols objects)
  constant.print (entryDepth + 1)

/-- Dumps a constant table under a title. -/
def dumpConstantTable (constants : Table String) (symbols objects : Table Node) (title : String) :
    DumpM Unit :=
  .titled title do
    .heading (tableLabel constants.size) 1
    constants.entries.forM (Constant.printEntry symbols objects)

/-- Dumps a set of names under a title. -/
def dumpSet (names : NameSet) (title : String) : DumpM Unit :=
  .titled title do
    .heading (setLabel names.size) 1
    names.keys.forM fun name => .line (": " ++ name) entryDepth

end TreeDump
