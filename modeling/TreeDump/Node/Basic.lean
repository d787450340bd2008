import TreeDump.Scalar
import TreeDump.Table

/-!
# Nodes

A node is a tag and its named fields: scalars in one name space, children in another. A layer is
one node's content with a value of any type in the place of each child, and a tree is worked off
layer by layer: `Node.fold` gives each node what its children have become.
-/

namespace TreeDump

universe u v

/-- The content of a scalar field. -/
inductive ScalarSlot where
  | single (value : Scalar)
  | list (values : List Scalar)

/-- The content of a child field. -/
inductive ChildSlot (ν : Type u) where
  | single (child : Option ν)
  | list (items : List ν)
  | dict (entries : Table ν)

/-- The content of a node, whose children are of type `ν`. -/
structure Layer (ν : Type u) where
  tag : String
  scalars : Table ScalarSlot
  children : Table (ChildSlot ν)

/-- A tree of nodes. -/
inductive Node where
  | mk (layer : Layer Node)

namespace ChildSlot

variable {ν : Type u} {ρ : Type v}

def mapChildren (f : ν → ρ) : ChildSlot ν → ChildSlot ρ
  | single child => .single (child.map f)
  | list items => .list (items.map f)
  | dict entries => .dict (entries.map f)

def toList : ChildSlot ν → List ν
  | single child => child.toList
  | list items => items
  | dict entries => entries.entries.map Prod.snd

end ChildSlot

namespace Layer

variable {ν : Type u} {ρ : Type v}

def mapChildren (f : ν → ρ) (layer : Layer ν) : Layer ρ :=
  ⟨layer.tag, layer.scalars, layer.children.map (·.mapChildren f)⟩

def nodes (layer : Layer ν) : List ν := layer.children.entries.flatMap fun entry => entry.2.toList

end Layer

namespace Node

def layer : Node → Layer Node
  | mk layer => layer

def tag (node : Node) : String := node.layer.tag

section Fold

variable {ρ : Type u} (f : Layer ρ → ρ)

mutual

/-- What a tree becomes when each layer is worked off after its children. -/
def fold : Node → ρ
  | mk ⟨tag, scalars, ⟨children⟩⟩ => f ⟨tag, scalars, ⟨foldFields children⟩⟩

def foldFields : List (String × ChildSlot Node) → List (String × ChildSlot ρ)
  | [] => []
  | (name, slot) :: rest => (name, foldSlot slot) :: foldFields rest

def foldSlot : ChildSlot Node → ChildSlot ρ
  | .single none => .single none
  | .single (some child) => .single (some (fold child))
  | .list items => .list (foldItems items)
  | .dict ⟨entries⟩ => .dict ⟨foldEntries entries⟩

def foldItems : List Node → List ρ
  | [] => []
  | item :: rest => fold item :: foldItems rest

def foldEntries : List (String × Node) → List (String × ρ)
  | [] => []
  | (key, item) :: rest => (key, fold item) :: foldEntries rest

end

theorem foldItems_eq_map (items : List Node) : foldItems f items = items.map (fold f) := by
  induction items with
  | nil => rw [foldItems, List.map_nil]
  | cons item rest ih => rw [foldItems, ih, List.map_cons]

theorem foldEntries_eq_map (entries : List (String × Node)) :
    foldEntries f entries = entries.map fun entry => (entry.1, fold f entry.2) := by
  induction entries with
  | nil => rw [foldEntries, List.map_nil]
  | cons entry rest ih => rw [foldEntries, ih, List.map_cons]

theorem foldSlot_eq_mapChildren (slot : ChildSlot Node) :
    foldSlot f slot = slot.mapChildren (fold f) := by
  cases slot with
  | single child => cases child <;> simp [foldSlot, ChildSlot.mapChildren]
  | list items => rw [foldSlot, foldItems_eq_map, ChildSlot.mapChildren]
  | dict entries => rw [foldSlot, foldEntries_eq_map, ChildSlot.mapChildren, Table.map]

theorem foldFields_eq_map (fields : List (String × ChildSlot Node)) :
    foldFields f fields = fields.map fun field => (field.1, field.2.mapChildren (fold f)) := by
  induction fields with
  | nil => rw [foldFields, List.map_nil]
  | cons field rest ih => rw [foldFields, ih, foldSlot_eq_mapChildren, List.map_cons]

/-- A tree is worked off by working off its children and then its own layer. -/
theorem fold_mk (layer : Layer Node) : fold f (mk layer) = f (layer.mapChildren (fold f)) := by
  obtain ⟨tag, scalars, ⟨fields⟩⟩ := layer
  rw [fold, foldFields_eq_map, Layer.mapChildren, Table.map]

end Fold

end Node

end TreeDump
