import TreeDump.Dump.Sink
import TreeDump.Number.Decimal

/-!
# Lines of a dump

A line begins with its line break. A line at depth `d` stands `d - 1` steps of two spaces from the
margin, and lines at the depths 0 and 1 stand at it. A field is a label with a colon, and its value
follows after a space unless it is empty.
-/

namespace TreeDump

/-- The line break and the spaces before a line. A depth is any natural number here. A real
printer counts it in a machine word, and its formatter pads to at most 65535 columns and refuses
more, so this is what it writes for depths up to 32768. Deeper lines are outside the model. -/
def indentText (depth : Nat) : String :=
  String.ofList ('\n' :: List.replicate (2 * (depth - 1)) ' ')

def fieldText (label value : String) : String :=
  if value = "" then label ++ ":" else label ++ ": " ++ value

def titleText (title : String) : String := "@@ " ++ title ++ " @@"

def listLabel (count : Nat) : String := "List[" ++ Decimal.ofNat count ++ "]"

def dictLabel (count : Nat) : String := "Dict[" ++ Decimal.ofNat count ++ "]"

def keyLabel (key : String) : String := "[" ++ key ++ "]"

namespace DumpM

def indent (depth : Nat) : DumpM Unit := write (indentText depth)

def line (text : String) (depth : Nat) : DumpM Unit := do
  indent depth
  write text

def field (label value : String) (depth : Nat) : DumpM Unit := line (fieldText label value) depth

def heading (label : String) (depth : Nat) : DumpM Unit := field label "" depth

def title (text : String) : DumpM Unit := write (titleText text)

/-- A dump under a title: title, body and a line break, and a flush whether or not they succeed.
Of two failures the first is reported. -/
def titled (text : String) (body : DumpM Unit) : DumpM Unit := do
  let written ← outcome do
    title text
    body
    write "\n"
  let flushed ← outcome flush
  ofExcept written
  ofExcept flushed

end DumpM

end TreeDump
