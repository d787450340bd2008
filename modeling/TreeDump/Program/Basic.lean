import TreeDump.FieldType

/-!
# Printer programs

A printer program prints trees without a schema: it has one arm for each tag that it knows, and an
arm is a sequence of statements over the fields of the node at hand. Each statement names the fields
it reads and the labels it writes, and says how far below the node's heading each line stands.
-/

namespace TreeDump

/-- Which text of a value a program takes: the text by the rule of its type or the canonical one. -/
inductive ValueForm where
  | text
  | canonical
deriving DecidableEq

/-- A statement of an arm. A number says how far below the heading a line or a child stands. -/
inductive Statement where
  /-- Writes a label. -/
  | heading (label : String) (below : Nat)
  /-- Writes the name in an identifier field. -/
  | identifier (label field : String) (below : Nat)
  /-- Writes the canonical text of a scalar field. -/
  | scalar (label field : String) (type : FieldType) (below : Nat)
  /-- Writes the count of a list of scalars and then each of them. -/
  | scalars (field : String) (type : FieldType) (countBelow : Nat) (label : String)
      (form : ValueForm) (below : Nat)
  /-- Prints a single child. -/
  | child (field : String) (below : Nat)
  /-- Writes the count of a list of children and prints each of them. -/
  | children (field : String) (countBelow below : Nat)
  /-- Writes the count of a map of children and then each key, and prints the child under it. -/
  | dict (field : String) (countBelow keyBelow below : Nat)
deriving DecidableEq

/-- What a program does with the nodes of a tag. -/
structure Arm where
  tag : String
  body : List Statement
deriving DecidableEq

/-- A printer program. -/
structure Program where
  /-- Whether the catalog of types is imported. -/
  importsTypes : Bool
  arms : List Arm
deriving DecidableEq

end TreeDump
