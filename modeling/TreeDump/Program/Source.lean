import TreeDump.Number.Decimal
import TreeDump.Program.Basic
import TreeDump.Text.Literal

/-!
# The Rust source of printer programs

A program is written as a Rust source file of one function, `print_node`, that matches the tag of a
node against the literals of the arms. A statement is one line or a loop of several lines, and names
stand in the source only as string literals, so no name can break a line.
-/

namespace TreeDump

open Literal (quote)

namespace FieldType

def path : FieldType → String
  | int => "FieldType::Int"
  | long => "FieldType::Long"
  | double => "FieldType::Double"
  | uInt => "FieldType::UInt"
  | uLong => "FieldType::ULong"
  | identifier => "FieldType::Identifier"
  | bool => "FieldType::Bool"

end FieldType

namespace ValueForm

def call : ValueForm → String
  | text => "text()"
  | canonical => "canonical()"

end ValueForm

/-- The expression for a depth so far below a node's heading. -/
def depthExpression : Nat → String
  | 0 => "depth"
  | below + 1 => "depth + " ++ Decimal.ofNat (below + 1)

/-- A line of source at a level of indentation of four spaces. -/
def sourceLine (level : Nat) (text : String) : String :=
  String.ofList (List.replicate (4 * level) ' ') ++ text

/-- The call that writes a field, given the expressions for its label and its value. -/
def writeField (label value : String) (below : Nat) : String :=
  "write_field(out, " ++ label ++ ", " ++ value ++ ", " ++ depthExpression below ++ ")?;"

/-- The call that writes the count of the elements of a collection, under a marker. -/
def writeCount (marker collection : String) (below : Nat) : String :=
  writeField ("&format!(\"" ++ marker ++ "[\x7b\x7d]\", " ++ collection ++ ".len())") "\"\"" below

/-- The call that prints a node, given the expression for it. -/
def printCall (node : String) (below : Nat) : String :=
  "print_node(out, " ++ node ++ ", " ++ depthExpression below ++ ")?;"

namespace Statement

def sourceLines : Statement → List String
  | heading label below => [sourceLine 3 (writeField (quote label) "\"\"" below)]
  | identifier label field below =>
    [sourceLine 3 (writeField (quote label) ("node.identifier(" ++ quote field ++ ")?") below)]
  | scalar label field type below =>
    [sourceLine 3 (writeField (quote label)
      ("&node.scalar(" ++ quote field ++ ", " ++ type.path ++ ")?.canonical()") below)]
  | scalars field type countBelow label form below =>
    [sourceLine 3 ("let values = node.scalar_list(" ++ quote field ++ ", " ++ type.path ++ ")?;"),
      sourceLine 3 (writeCount "List" "values" countBelow),
      sourceLine 3 "for value in values \x7b",
      sourceLine 4 (writeField (quote label) ("&value." ++ form.call) below),
      sourceLine 3 "\x7d"]
  | child field below => [sourceLine 3 (printCall ("node.child(" ++ quote field ++ ")?") below)]
  | children field countBelow below =>
    [sourceLine 3 ("let items = node.child_list(" ++ quote field ++ ")?;"),
      sourceLine 3 (writeCount "List" "items" countBelow),
      sourceLine 3 "for item in items \x7b",
      sourceLine 4 (printCall "Some(item)" below),
      sourceLine 3 "\x7d"]
  | dict field countBelow keyBelow below =>
    [sourceLine 3 ("let entries = node.child_map(" ++ quote field ++ ")?;"),
      sourceLine 3 (writeCount "Dict" "entries" countBelow),
      sourceLine 3 "for (key, item) in entries \x7b",
      sourceLine 4 (writeField "&format!(\"[\x7bkey\x7d]\")" "\"\"" keyBelow),
      sourceLine 4 (printCall "Some(item)" below),
      sourceLine 3 "\x7d"]

end Statement

namespace Arm

def sourceLines (arm : Arm) : List String :=
  sourceLine 2 (quote arm.tag ++ " => \x7b") ::
    (arm.body.flatMap Statement.sourceLines ++ [sourceLine 2 "\x7d"])

end Arm

namespace Program

/-- The lines before the imports that depend on the program. -/
def headLines : List String := [
  "// @generated by astdump from the compiler node schema. Do not edit.",
  "",
  "use std::io::Write;",
  "",
  "use astdump_core::error::\x7bDumpError, DumpResult\x7d;",
  "use astdump_core::node::Node;",
  "use astdump_core::printer::write_field;"]

def typesImport : String := "use astdump_core::types::FieldType;"

def openingLines : List String := [
  "",
  "pub fn print_node<W: Write>(out: &mut W, node: Option<&Node>, depth: usize) -> DumpResult \x7b",
  "    let Some(node) = node else \x7b",
  "        return write_field(out, \"None\", \"\", depth + 1);",
  "    \x7d;",
  "    let depth = depth + 1;",
  "    match node.tag() \x7b"]

def closingLines : List String := [
  "        tag => return Err(DumpError::DispatchMismatch(tag.to_string())),",
  "    \x7d",
  "    Ok(())",
  "\x7d"]

def sourceLines (program : Program) : List String :=
  headLines ++ (if program.importsTypes then [typesImport] else []) ++ openingLines ++
    program.arms.flatMap Arm.sourceLines ++ closingLines

/-- The source of a program: its lines, each with a line feed after it. -/
def source (program : Program) : String :=
  String.ofList (program.sourceLines.flatMap fun line => line.toList ++ ['\n'])

end Program

end TreeDump
