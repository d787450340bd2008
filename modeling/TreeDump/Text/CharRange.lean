/-!
# Ranges of characters

A set of characters as a list of ranges of code points, in order and apart from each other.
-/

namespace TreeDump

def inRanges (ranges : List (Nat × Nat)) (c : Char) : Bool :=
  (ranges.find? fun range => c.toNat ≤ range.2).any fun range => range.1 ≤ c.toNat

end TreeDump
