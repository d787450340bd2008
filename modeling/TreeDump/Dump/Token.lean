import TreeDump.Dump.Line

/-!
# Token listings

A token is listed by its text alone if that is also the name of its kind, as for keywords and
punctuation, and otherwise by its kind with the text in parentheses.
-/

namespace TreeDump

/-- A token: the name of its kind and its text in the source. -/
structure Token where
  kind : String
  literal : String
deriving DecidableEq

namespace Token

def text (token : Token) : String :=
  if token.kind = token.literal then token.literal
  else token.kind ++ "(" ++ token.literal ++ ")"

def printAll (tokens : List Token) : DumpM Unit :=
  .titled "Tokens" do
    .heading (listLabel tokens.length) 1
    tokens.forM fun token => .line token.text 2

end Token

end TreeDump
