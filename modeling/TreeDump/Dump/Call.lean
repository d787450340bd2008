import TreeDump.Dump.Tables
import TreeDump.Dump.Token

/-!
# Runs of dumps

What may be asked of a printer, and a run of such calls on one sink. A call that fails does not end
the run: the next one goes on with the sink as it is.
-/

namespace TreeDump

/-- What may be asked of a printer. -/
inductive Call where
  | printTree (root : Option Node) (title : String)
  | printNode (node : Option Node) (depth : Nat)
  | printTokens (tokens : List Token)
  | dumpTable (table : Table Node) (title : String)
  | dumpConstantTable (constants : Table String) (symbols objects : Table Node) (title : String)
  | dumpSet (names : NameSet) (title : String)

namespace Call

def dump (schema : Schema) : Call → DumpM Unit
  | printTree root title => schema.printTree root title
  | printNode node depth => schema.printNode node depth
  | printTokens tokens => Token.printAll tokens
  | dumpTable table title => schema.dumpTable table title
  | dumpConstantTable constants symbols objects title =>
    TreeDump.dumpConstantTable constants symbols objects title
  | dumpSet names title => TreeDump.dumpSet names title

end Call

namespace DumpM

/-- The results of dumps that follow each other on one sink, each with the sink after it. -/
def runAll : List (DumpM Unit) → Sink → List (Except DumpError Unit × Sink)
  | [], _ => []
  | dump :: rest, sink =>
    let done := dump.runOn sink
    done :: runAll rest done.2

end DumpM

end TreeDump
