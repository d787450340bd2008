import TreeDump.Proofs.Source.Syntax

/-!
# Reading printer sources

The reader takes a source text apart: first into tokens, then the imports, then the one function.
Readers of syntax give what they have read and the tokens after it. A reader of something that can
be nested or repeated counts down from a limit, and for a file the limit is the number of its tokens.
-/

namespace TreeDump.Source

universe u

/-- The tokens after those that are expected. -/
def skip? : List Token → List Token → Option (List Token)
  | [], rest => some rest
  | expected :: front, token :: rest => if expected = token then skip? front rest else none
  | _, _ => none

def readPath : List Token → Option (List String × List Token)
  | .word name :: .mark ':' :: .mark ':' :: rest =>
    (readPath rest).map fun r => (name :: r.1, r.2)
  | .word name :: rest => some ([name], rest)
  | _ => none

mutual

def readExpr : Nat → List Token → Option (Expr × List Token)
  | 0, _ => none
  | limit + 1, .word "return" :: rest => (readExpr limit rest).map fun r => (.leave r.1, r.2)
  | limit + 1, tokens =>
    (readOperand limit tokens).bind fun r =>
      match r.2 with
      | .mark '+' :: rest => (readExpr limit rest).map fun s => (.sum r.1 s.1, s.2)
      | _ => some r

/-- Reads what may stand on a side of a sum. -/
def readOperand : Nat → List Token → Option (Expr × List Token)
  | 0, _ => none
  | limit + 1, .mark '&' :: rest => (readOperand limit rest).map fun r => (.reference r.1, r.2)
  | limit + 1, tokens => (readAtom limit tokens).bind fun r => readSuffix limit r.1 r.2

/-- Reads what stands before the first method or question mark. -/
def readAtom : Nat → List Token → Option (Expr × List Token)
  | 0, _ => none
  | _ + 1, .literal value :: rest => some (.text value, rest)
  | _ + 1, .number value :: rest => some (.number value, rest)
  | _ + 1, .mark '(' :: .mark ')' :: rest => some (.unit, rest)
  | limit + 1, .word "format" :: .mark '!' :: .mark '(' :: .literal template :: rest =>
    (readFollowing limit rest).map fun r => (.format template r.1, r.2)
  | limit + 1, tokens =>
    (readPath tokens).bind fun r =>
      match r.2 with
      | .mark '(' :: rest => (readArguments limit rest).map fun s => (.call r.1 s.1, s.2)
      | _ => some (.path r.1, r.2)

/-- Reads the methods and question marks after an expression. -/
def readSuffix : Nat → Expr → List Token → Option (Expr × List Token)
  | 0, _, _ => none
  | limit + 1, value, .mark '?' :: rest => readSuffix limit (.attempt value) rest
  | limit + 1, value, .mark '.' :: .word name :: .mark '(' :: rest =>
    (readArguments limit rest).bind fun r => readSuffix limit (.method value name r.1) r.2
  | _ + 1, value, rest => some (value, rest)

def readArguments : Nat → List Token → Option (List Expr × List Token)
  | 0, _ => none
  | _ + 1, .mark ')' :: rest => some ([], rest)
  | limit + 1, tokens =>
    (readExpr limit tokens).bind fun r =>
      (readFollowing limit r.2).map fun s => (r.1 :: s.1, s.2)

/-- Reads the arguments that follow another one, and the parenthesis after them. -/
def readFollowing : Nat → List Token → Option (List Expr × List Token)
  | 0, _ => none
  | _ + 1, .mark ')' :: rest => some ([], rest)
  | limit + 1, .mark ',' :: rest =>
    (readExpr limit rest).bind fun r =>
      (readFollowing limit r.2).map fun s => (r.1 :: s.1, s.2)
  | _ + 1, _ => none

end

def readExprThen (limit : Nat) (closing : List Token) (tokens : List Token) :
    Option (Expr × List Token) :=
  (readExpr limit tokens).bind fun r => (skip? closing r.2).map fun rest => (r.1, rest)

/-- Reads pieces of one kind up to the brace that closes them. -/
def readBlock {α : Type u} (read : List Token → Option (α × List Token)) :
    Nat → List Token → Option (List α × List Token)
  | _, .mark '}' :: rest => some ([], rest)
  | 0, _ => none
  | limit + 1, tokens =>
    (read tokens).bind fun r => (readBlock read limit r.2).map fun s => (r.1 :: s.1, s.2)

def readPattern : List Token → Option (List String × List Token)
  | .word name :: rest => some ([name], rest)
  | .mark '(' :: .word first :: .mark ',' :: .word second :: .mark ')' :: rest =>
    some ([first, second], rest)
  | _ => none

def readCommand (limit : Nat) : List Token → Option (Command × List Token)
  | .word "let" :: .word name :: .mark '=' :: rest =>
    (readExprThen limit [.mark ';'] rest).map fun r => (.bind name r.1, r.2)
  | .word "for" :: rest =>
    (readPattern rest).bind fun names =>
      (skip? [.word "in"] names.2).bind fun rest =>
        (readExprThen limit [.mark '{'] rest).bind fun source =>
          (readBlock (readExprThen limit [.mark ';']) limit source.2).map fun body =>
            (.each names.1 source.1 body.1, body.2)
  | tokens => (readExprThen limit [.mark ';'] tokens).map fun r => (.run r.1, r.2)

def readBindings (limit : Nat) : Nat → List Token → Option (List Command × List Token)
  | count + 1, .word "let" :: rest =>
    (readCommand limit (.word "let" :: rest)).bind fun r =>
      (readBindings limit count r.2).map fun s => (r.1 :: s.1, s.2)
  | _, rest => some ([], rest)

def readBranches (limit : Nat) : Nat → List Token → Option (List Branch × List Token)
  | count + 1, .literal pattern :: .mark '=' :: .mark '>' :: .mark '{' :: rest =>
    (readBlock (readCommand limit) limit rest).bind fun r =>
      (readBranches limit count r.2).map fun s => (⟨pattern, r.1⟩ :: s.1, s.2)
  | _, rest => some ([], rest)

def readWordThen (closing : List Token) : List Token → Option (String × List Token)
  | .word name :: rest => (skip? closing rest).map fun rest => (name, rest)
  | _ => none

/-- Reads the function, which ends the file. -/
def readFunction (limit : Nat) (tokens : List Token) : Option Function := do
  let rest ← skip? (signatureTokens ++ [.word "let", .word "Some", .mark '(']) tokens
  let (present, rest) ← readWordThen [.mark ')', .mark '='] rest
  let (subject, rest) ← readExprThen limit [.word "else", .mark '{'] rest
  let (absent, rest) ← readExprThen limit [.mark ';', .mark '}', .mark ';'] rest
  let (opening, rest) ← readBindings limit limit rest
  let rest ← skip? [.word "match"] rest
  let (matched, rest) ← readExprThen limit [.mark '{'] rest
  let (branches, rest) ← readBranches limit limit rest
  let (other, rest) ← readWordThen [.mark '=', .mark '>'] rest
  let (otherwise, rest) ← readExprThen limit [.mark ',', .mark '}'] rest
  let (value, rest) ← readExprThen limit [.mark '}'] rest
  if rest = [] then
    return ⟨present, subject, absent, opening, matched, branches, other, otherwise, value⟩
  else none

/-- Reads the names of a group of imports under a path. -/
def readGroup (stem : List String) : List Token → Option (List (List String) × List Token)
  | .word name :: .mark ',' :: rest =>
    (readGroup stem rest).map fun r => ((stem ++ [name]) :: r.1, r.2)
  | .word name :: .mark '}' :: .mark ';' :: rest => some ([stem ++ [name]], rest)
  | _ => none

def readImport (stem : List String) : List Token → Option (List (List String) × List Token)
  | .word name :: .mark ':' :: .mark ':' :: rest => readImport (stem ++ [name]) rest
  | .word name :: .mark ';' :: rest => some ([stem ++ [name]], rest)
  | .mark '{' :: rest => readGroup stem rest
  | _ => none

def readImports : Nat → List Token → Option (List (List String) × List Token)
  | limit + 1, .word "use" :: rest =>
    (readImport [] rest).bind fun r =>
      (readImports limit r.2).map fun s => (r.1 ++ s.1, s.2)
  | _, rest => some ([], rest)

namespace File

def ofTokens? (tokens : List Token) : Option File :=
  (readImports tokens.length tokens).bind fun r =>
    (readFunction tokens.length r.2).map fun function => ⟨r.1, function⟩

/-- The file of a source text. -/
def ofText? (text : String) : Option File := (tokens? text).bind ofTokens?

end File

end TreeDump.Source
