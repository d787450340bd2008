import TreeDump.Proofs.Source.Token

/-!
# Syntax of printer sources

The part of the language in which a printer is written: expressions, commands, the branches of a
match on texts, and a source file with its imports and its one function. Each piece of syntax has
its tokens, and a reader takes the tokens apart again. The reader of expressions counts down with
each level of nesting, and the number of tokens is always enough.
-/

namespace TreeDump.Source

inductive Expr where
  | text (value : String)
  | number (value : Nat)
  | unit
  /-- A variable, or an item by its path. -/
  | path (names : List String)
  | reference (value : Expr)
  | sum (left right : Expr)
  /-- The value of a success, or the end of the function with a failure. -/
  | attempt (value : Expr)
  /-- The end of the function. -/
  | leave (value : Expr)
  | call (function : List String) (arguments : List Expr)
  | method (receiver : Expr) (name : String) (arguments : List Expr)
  /-- A text with the shown values of arguments and variables in the places of its braces. -/
  | format (template : String) (arguments : List Expr)

inductive Command where
  | bind (name : String) (value : Expr)
  | run (value : Expr)
  | each (names : List String) (source : Expr) (body : List Expr)

structure Branch where
  pattern : String
  body : List Command

/-- The function that prints a node: what it does if there is none, the commands before the match,
the match with its branches and the one for any other text, and the value at the end. -/
structure Function where
  present : String
  subject : Expr
  absent : Expr
  opening : List Command
  matched : Expr
  branches : List Branch
  other : String
  otherwise : Expr
  value : Expr

/-- A source file: the paths that it imports and its function. -/
structure File where
  imports : List (List String)
  function : Function

def pathTokens : List String → List Token
  | [] => []
  | [name] => [.word name]
  | name :: rest => .word name :: .mark ':' :: .mark ':' :: pathTokens rest

namespace Expr

mutual

def tokens : Expr → List Token
  | text value => [.literal value]
  | number value => [.number value]
  | unit => [.mark '(', .mark ')']
  | path names => pathTokens names
  | reference value => .mark '&' :: tokens value
  | sum left right => tokens left ++ .mark '+' :: tokens right
  | attempt value => tokens value ++ [.mark '?']
  | leave value => .word "return" :: tokens value
  | call function arguments =>
    pathTokens function ++ .mark '(' :: (argumentTokens arguments ++ [.mark ')'])
  | method receiver name arguments =>
    tokens receiver ++
      .mark '.' :: .word name :: .mark '(' :: (argumentTokens arguments ++ [.mark ')'])
  | format template arguments =>
    .word "format" :: .mark '!' :: .mark '(' :: .literal template ::
      (followingTokens arguments ++ [.mark ')'])

def argumentTokens : List Expr → List Token
  | [] => []
  | argument :: rest => tokens argument ++ followingTokens rest

/-- The tokens of arguments that follow another one. -/
def followingTokens : List Expr → List Token
  | [] => []
  | argument :: rest => .mark ',' :: (tokens argument ++ followingTokens rest)

end

end Expr

def patternTokens : List String → List Token
  | [name] => [.word name]
  | [first, second] => [.mark '(', .word first, .mark ',', .word second, .mark ')']
  | _ => []

namespace Command

def tokens : Command → List Token
  | bind name value => .word "let" :: .word name :: .mark '=' :: (value.tokens ++ [.mark ';'])
  | run value => value.tokens ++ [.mark ';']
  | each names source body =>
    .word "for" :: (patternTokens names ++ .word "in" :: (source.tokens ++ .mark '{' ::
      (body.flatMap (fun value => value.tokens ++ [.mark ';']) ++ [.mark '}'])))

end Command

namespace Branch

def tokens (branch : Branch) : List Token :=
  .literal branch.pattern :: .mark '=' :: .mark '>' :: .mark '{' ::
    (branch.body.flatMap Command.tokens ++ [.mark '}'])

end Branch

def signatureTokens : List Token := [
  .word "pub", .word "fn", .word "print_node",
  .mark '<', .word "W", .mark ':', .word "Write", .mark '>',
  .mark '(', .word "out", .mark ':', .mark '&', .word "mut", .word "W", .mark ',',
  .word "node", .mark ':', .word "Option", .mark '<', .mark '&', .word "Node", .mark '>', .mark ',',
  .word "depth", .mark ':', .word "usize", .mark ')',
  .mark '-', .mark '>', .word "DumpResult", .mark '{']

namespace Function

def openingTokens (function : Function) : List Token :=
  signatureTokens ++
    ([.word "let", .word "Some", .mark '(', .word function.present, .mark ')', .mark '='] ++
    (function.subject.tokens ++ ([.word "else", .mark '{'] ++
    (function.absent.tokens ++ ([.mark ';', .mark '}', .mark ';'] ++
    (function.opening.flatMap Command.tokens ++ (.word "match" ::
    (function.matched.tokens ++ [.mark '{']))))))))

def closingTokens (function : Function) : List Token :=
  .word function.other :: .mark '=' :: .mark '>' ::
    (function.otherwise.tokens ++ (.mark ',' :: .mark '}' ::
    (function.value.tokens ++ [.mark '}'])))

def tokens (function : Function) : List Token :=
  function.openingTokens ++ (function.branches.flatMap Branch.tokens ++ function.closingTokens)

end Function

end TreeDump.Source
