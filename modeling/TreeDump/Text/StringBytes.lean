/-!
# Bytes in a C string literal

The bytes of a string constant as they stand between the quotes of a C string literal: the bytes
that have an escape sequence of a letter or a mark are written by it, all others as they are.
-/

namespace TreeDump.StringBytes

/-- What follows the backslash in the escape sequence of a byte that has one. -/
def escape? (byte : UInt8) : Option Char :=
  match byte with
  | 0x07 => some 'a'
  | 0x08 => some 'b'
  | 0x09 => some 't'
  | 0x0A => some 'n'
  | 0x0B => some 'v'
  | 0x0C => some 'f'
  | 0x0D => some 'r'
  | 0x22 => some '"'
  | 0x27 => some '\''
  | 0x3F => some '?'
  | 0x5C => some '\\'
  | _ => none

def encodeByte (byte : UInt8) : List UInt8 :=
  match escape? byte with
  | some mark => [0x5C, mark.toUInt8]
  | none => [byte]

def encode (bytes : List UInt8) : List UInt8 := bytes.flatMap encodeByte

end TreeDump.StringBytes
