import TreeDump.Text.Literal

/-!
# Tokens of source text

The reader of source text goes over it one character at a time and remembers only where it stands:
between tokens, in a comment, in a word, in a number or in a string literal. A literal gives the
text that it denotes, so its escapes are undone here and nowhere else.
-/

namespace TreeDump.Source

/-- A token of source text. A literal is the text that it denotes. -/
inductive Token where
  | word (name : String)
  | number (value : Nat)
  | literal (text : String)
  | mark (sign : Char)
deriving DecidableEq

/-- Where the reader of a literal stands: between two characters, after a backslash, after the mark
of a code point, or among its digits. -/
inductive LiteralPlace where
  | plain
  | escape
  | brace
  | code (value digits : Nat)
deriving DecidableEq

namespace LiteralPlace

/-- The character that a letter after a backslash stands for. -/
def escaped? (mark : Char) : Option Char :=
  match mark with
  | '"' => some '"'
  | '\'' => some '\''
  | '\\' => some '\\'
  | 'n' => some '\n'
  | 'r' => some '\r'
  | 't' => some '\t'
  | '0' => some '\x00'
  | _ => none

def hexDigit? (c : Char) : Option Nat :=
  if '0' ≤ c ∧ c ≤ '9' then some (c.toNat - '0'.toNat)
  else if 'a' ≤ c ∧ c ≤ 'f' then some (10 + (c.toNat - 'a'.toNat))
  else if 'A' ≤ c ∧ c ≤ 'F' then some (10 + (c.toNat - 'A'.toNat))
  else none

/-- The place after a character between the quotes, and the text that the character completes. -/
def next : LiteralPlace → Char → Option (List Char × LiteralPlace)
  | plain, c =>
    if c = '\\' then some ([], escape)
    else if c = '\r' then none
    else some ([c], plain)
  | escape, c =>
    if c = 'u' then some ([], brace)
    else (escaped? c).map fun denoted => ([denoted], plain)
  | brace, c => if c = '{' then some ([], code 0 0) else none
  | code value digits, c =>
    if c = '}' then
      if 0 < digits ∧ digits ≤ 6 ∧ value.isValidChar then some ([Char.ofNat value], plain)
      else none
    else (hexDigit? c).map fun digit => ([], code (16 * value + digit) (digits + 1))

end LiteralPlace

/-- Where the reader of source text stands. -/
inductive Place where
  | gap
  | slash
  | comment
  | word (letters : List Char)
  | number (value : Nat)
  | literal (place : LiteralPlace) (text : List Char)
deriving DecidableEq

namespace Place

def signs : List Char := "()\x7b\x7d<>[],;:.=?&!+-".toList

/-- The place after the first character of what may be a token, and the tokens that it makes. -/
def start (c : Char) : Option (List Token × Place) :=
  if c = ' ' ∨ c = '\n' then some ([], gap)
  else if c = '/' then some ([], slash)
  else if c = '"' then some ([], literal .plain [])
  else if c.isAlpha ∨ c = '_' then some ([], word [c])
  else if c.isDigit then some ([], number (c.toNat - '0'.toNat))
  else if c ∈ signs then some ([.mark c], gap)
  else none

/-- The place after a character, and the tokens that the character completes. -/
def next : Place → Char → Option (List Token × Place)
  | gap, c => start c
  | slash, c => if c = '/' then some ([], comment) else none
  | comment, c => some ([], if c = '\n' then gap else comment)
  | word letters, c =>
    if c.isAlphanum ∨ c = '_' then some ([], word (letters ++ [c]))
    else (start c).map fun after => (.word (String.ofList letters) :: after.1, after.2)
  | number value, c =>
    if c.isDigit then some ([], number (10 * value + (c.toNat - '0'.toNat)))
    else if c.isAlpha ∨ c = '_' then none
    else (start c).map fun after => (.number value :: after.1, after.2)
  | literal place text, c =>
    if place = .plain ∧ c = '"' then some ([.literal (String.ofList text)], gap)
    else (place.next c).map fun after => ([], literal after.2 (text ++ after.1))

/-- The tokens that characters complete, and the place after them. -/
def scan : Place → List Char → Option (List Token × Place)
  | place, [] => some ([], place)
  | place, c :: rest =>
    (place.next c).bind fun completed =>
      (completed.2.scan rest).map fun r => (completed.1 ++ r.1, r.2)

end Place

/-- The tokens of a source text. Its end completes a token as a line feed does. -/
def tokens? (text : String) : Option (List Token) :=
  match Place.gap.scan (text.toList ++ ['\n']) with
  | some (tokens, .gap) => some tokens
  | _ => none

end TreeDump.Source
