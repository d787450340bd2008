import TreeDump.Node.Basic

/-!
# Equality of nodes

Two nodes are equal if their tags are and their fields hold equal values under the same names.
The order of fields and of map entries does not count. Numbers are compared as numbers, so a tree
that holds a double that is no number differs from itself.
-/

namespace TreeDump

universe u v

namespace Table

variable {α : Type u} {β : Type v}

/-- Whether two tables have the same keys, with values in one that accept those in the other. -/
def agrees (table : Table (α → Bool)) (other : Table α) : Bool :=
  table.size = other.size && table.entries.all fun entry => (other.get? entry.1).any entry.2

end Table

/-- Whether the tests of one list accept the values of another, in order and number. -/
def agreesInOrder {α : Type u} : List (α → Bool) → List α → Bool
  | [], [] => true
  | test :: tests, value :: values => test value && agreesInOrder tests values
  | _, _ => false

namespace ScalarSlot

def equal : ScalarSlot → ScalarSlot → Bool
  | single x, single y => x.equal y
  | list xs, list ys => agreesInOrder (xs.map Scalar.equal) ys
  | _, _ => false

end ScalarSlot

namespace ChildSlot

variable {ν : Type u}

/-- Whether the tests in one child field accept the children in another. -/
def agrees : ChildSlot (ν → Bool) → ChildSlot ν → Bool
  | single none, single none => true
  | single (some test), single (some child) => test child
  | list tests, list items => agreesInOrder tests items
  | dict tests, dict entries => tests.agrees entries
  | _, _ => false

end ChildSlot

namespace Layer

variable {ν : Type u}

/-- Whether the tests in one layer accept another layer. -/
def agrees (tests : Layer (ν → Bool)) (layer : Layer ν) : Bool :=
  tests.tag = layer.tag &&
    (tests.scalars.map ScalarSlot.equal).agrees layer.scalars &&
    (tests.children.map ChildSlot.agrees).agrees layer.children

end Layer

namespace Node

def equal : Node → Node → Bool := fold fun tests node => tests.agrees node.layer

end Node

end TreeDump
