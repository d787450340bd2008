/-!
# Numbers in binary64

A number is its 64 bits: a sign, an exponent field of 11 bits and a fraction field of 52. A finite
number has the magnitude `significand * 2 ^ scale / 2 ^ 1074`.
-/

namespace TreeDump

/-- A number in the 64-bit binary interchange format. -/
structure Binary64 where
  bits : UInt64
deriving DecidableEq

namespace Binary64

def isNegative (x : Binary64) : Bool := Nat.pow 2 63 ≤ x.bits.toNat

/-- The eleven bits after the sign. -/
def exponentField (x : Binary64) : Nat := x.bits.toNat / Nat.pow 2 52 % Nat.pow 2 11

/-- The last 52 bits. -/
def fractionField (x : Binary64) : Nat := x.bits.toNat % Nat.pow 2 52

def isNaN (x : Binary64) : Bool := x.exponentField = 2047 && x.fractionField ≠ 0

def isInfinite (x : Binary64) : Bool := x.exponentField = 2047 && x.fractionField = 0

/-- Whether the bits stand for a zero of either sign. -/
def isZero (x : Binary64) : Bool := x.exponentField = 0 && x.fractionField = 0

/-- The significand of a finite number, with the bit that normal numbers leave out. -/
def significand (x : Binary64) : Nat :=
  if x.exponentField = 0 then x.fractionField else Nat.pow 2 52 + x.fractionField

/-- The power of two by which a finite number's significand exceeds the smallest step. -/
def scale (x : Binary64) : Nat := x.exponentField - 1

/-- Numeric equality: the two zeros are equal, and what is no number equals nothing. -/
def equal (x y : Binary64) : Bool :=
  !x.isNaN && !y.isNaN && (x.bits == y.bits || x.isZero && y.isZero)

end Binary64

end TreeDump
