import TreeDump.Text.Hidden

/-!
# String literals

A text as a string literal in Rust source. The quote, the backslash, the line feed, the carriage
return, the tab and the null character are written by a backslash and a mark. Of the others, those
that do not show are written by their code point in hexadecimal digits, and the rest as they are.
-/

namespace TreeDump.Literal

/-- What follows the backslash in the escape of a character that has one of its own. -/
def escape? (c : Char) : Option Char :=
  match c with
  | '"' => some '"'
  | '\\' => some '\\'
  | '\n' => some 'n'
  | '\r' => some 'r'
  | '\t' => some 't'
  | '\x00' => some '0'
  | _ => none

def codePoint (c : Char) : List Char := ['\\', 'u', '{'] ++ Nat.toDigits 16 c.toNat ++ ['}']

/-- A character in a literal, where the characters of a set are written by their code points. -/
def encodeChar (hidden : Char → Bool) (c : Char) : List Char :=
  match escape? c with
  | some mark => ['\\', mark]
  | none => if hidden c then codePoint c else [c]

def encode (hidden : Char → Bool) (text : List Char) : List Char :=
  text.flatMap (encodeChar hidden)

/-- The literal of a text. -/
def quote (text : String) : String :=
  "\"" ++ String.ofList (encode isHidden text.toList) ++ "\""

end TreeDump.Literal
