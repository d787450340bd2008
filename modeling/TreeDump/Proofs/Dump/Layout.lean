import TreeDump.Proofs.Dump.Unambiguous

/-!
# Layouts of dumps

Where a line of a dump stands is determined by the way from the root to the node that it belongs to:
the heading of a single child stands one step below that of its owner, of an element of a list two
steps, and of a value of a map three. A layout has the lines of a tree in the order of the dump,
each with that way. Main statement: the lines of a tree that conforms are those of its layout.
-/

namespace TreeDump

/-- A step from a node to a child. The field is given by its place among the declared ones. -/
inductive Edge where
  | single (field : Nat)
  | item (field index : Nat)
  | entry (field index : Nat)
deriving DecidableEq

namespace Edge

def isSingle : Edge → Bool
  | single _ => true
  | _ => false

def isItem : Edge → Bool
  | item .. => true
  | _ => false

def isEntry : Edge → Bool
  | entry .. => true
  | _ => false

/-- How many steps deeper the heading of a child stands than that of its owner. -/
def rise : Edge → Nat
  | single _ => 1
  | item .. => 2
  | entry .. => 3

end Edge

/-- What a line says about the node that it belongs to. -/
inductive Role where
  | heading
  | scalar
  /-- How many values or children a list or a map has. -/
  | marker
  | element
  | key
deriving DecidableEq

/-- How many steps deeper a line stands than the heading of its node. -/
def Role.offset : Role → Nat
  | heading => 0
  | scalar => 1
  | marker => 1
  | element => 2
  | key => 2

/-- The depth of the heading at the end of a path, in a dump below a depth. -/
def headingDepth (depth : Nat) (path : List Edge) : Nat :=
  depth + 1 + path.countP Edge.isSingle + 2 * path.countP Edge.isItem +
    3 * path.countP Edge.isEntry

/-- A line with the path from the root to the node that it belongs to. -/
structure PlacedLine where
  path : List Edge
  role : Role
  text : String
deriving DecidableEq

namespace PlacedLine

/-- A line of the root. -/
def own (role : Role) (text : String) : PlacedLine := ⟨[], role, text⟩

/-- A line of the root with a label and a value, which may be empty. -/
def ownValue (role : Role) (label value : String) : PlacedLine :=
  own role (if value = "" then label ++ ":" else label ++ ": " ++ value)

def below (edge : Edge) (placed : PlacedLine) : PlacedLine :=
  { placed with path := edge :: placed.path }

/-- A placed line in a dump below a depth. -/
def line (depth : Nat) (placed : PlacedLine) : Line :=
  ⟨placed.text, headingDepth depth placed.path + placed.role.offset⟩

end PlacedLine

/-- The lines of a tree in the order of its dump. -/
abbrev Layout := List PlacedLine

namespace Layout

def optional (layout : Option Layout) : Layout := layout.getD [.own .heading "None:"]

/-- The layout of a child, seen from its owner. -/
def below (edge : Edge) (layout : Layout) : Layout := layout.map (·.below edge)

def lines (depth : Nat) (layout : Layout) : List Line := layout.map (·.line depth)

end Layout

def ScalarField.layout (field : ScalarField) {ν : Type} (node : Layer ν) : Layout :=
  match node.scalars.get? field.name with
  | none => []
  | some (.single value) => [.ownValue .scalar field.name value.text]
  | some (.list values) =>
    .own .marker ("List[" ++ Decimal.ofNat values.length ++ "]:") ::
      values.map fun value => .ownValue .element field.type.name value.text

/-- The layout of the children in the field at a place among the declared ones. -/
def ChildSlot.layout (place : Nat) : ChildSlot Layout → Layout
  | single child => (Layout.optional child).below (.single place)
  | list children =>
    .own .marker ("List[" ++ Decimal.ofNat children.length ++ "]:") ::
      children.zipIdx.flatMap fun item => item.1.below (.item place item.2)
  | dict entries =>
    .own .marker ("Dict[" ++ Decimal.ofNat entries.size ++ "]:") ::
      entries.entries.zipIdx.flatMap fun item =>
        .own .key ("[" ++ item.1.1 ++ "]:") :: item.1.2.below (.entry place item.2)

def ChildField.layout (field : ChildField) (place : Nat) (node : Layer Layout) : Layout :=
  (node.children.get? field.name).elim [] (ChildSlot.layout place)

def Descriptor.layout (descriptor : Descriptor) (node : Layer Layout) : Layout :=
  (descriptor.scalars.flatMap fun field => field.layout node) ++
    descriptor.children.zipIdx.flatMap fun declared => declared.1.layout declared.2 node

namespace Schema

def layoutLayer (schema : Schema) (node : Layer Layout) : Layout :=
  .own .heading (node.tag ++ ":") ::
    (schema.get? node.tag).elim [] fun descriptor => descriptor.layout node

/-- The layout of a tree that may be absent. -/
def layout (schema : Schema) (node : Option Node) : Layout :=
  .optional (node.map (Node.fold schema.layoutLayer))

end Schema

lemma headingDepth_cons (depth : Nat) (edge : Edge) (path : List Edge) :
    headingDepth depth (edge :: path) = headingDepth (depth + edge.rise) path := by
  cases edge <;>
    simp only [headingDepth, List.countP_cons, Edge.isSingle, Edge.isItem, Edge.isEntry, Edge.rise,
      if_true, Bool.false_eq_true, if_false] <;>
    omega

namespace Layout

def items (depth : Nat) (layout : Layout) : List Item := (layout.lines depth).map Item.line

lemma items_below (depth : Nat) (edge : Edge) (layout : Layout) :
    (layout.below edge).items depth = layout.items (depth + edge.rise) := by
  simp only [items, lines, below, List.map_map]
  refine List.map_congr_left fun placed _ => ?_
  simp only [Function.comp_apply, PlacedLine.line, PlacedLine.below, headingDepth_cons]

lemma items_own_cons (depth : Nat) (role : Role) (text : String) (rest : Layout) :
    items depth (.own role text :: rest) =
      .line ⟨text, depth + 1 + role.offset⟩ :: rest.items depth := rfl

lemma items_append (depth : Nat) (front back : Layout) :
    items depth (front ++ back) = front.items depth ++ back.items depth := by
  rw [items, lines, List.map_append, List.map_append]
  rfl

lemma items_flatMap {α : Type} {depth : Nat} {elements : List α} {layout : α → Layout}
    {expected : α → List Item}
    (h : ∀ element ∈ elements, (layout element).items depth = expected element) :
    items depth (elements.flatMap layout) = elements.flatMap expected := by
  rw [items, lines, List.map_flatMap, List.map_flatMap]
  exact List.flatMap_congr h

/-- The depths of lines do not depend on the place of their node in a list. -/
lemma items_flatMap_zipIdx {α : Type} {depth : Nat} {elements : List α}
    {layout : α × Nat → Layout} {expected : α → List Item}
    (h : ∀ element ∈ elements, ∀ place, (layout (element, place)).items depth = expected element) :
    items depth (elements.zipIdx.flatMap layout) = elements.flatMap expected := by
  have hplaces : elements.zipIdx.flatMap (fun item => expected item.1) =
      elements.flatMap expected := by
    rw [← List.flatMap_map, List.zipIdx_map_fst]
  rw [← hplaces]
  exact items_flatMap fun item hitem => h item.1 (List.fst_mem_of_mem_zipIdx hitem) item.2

end Layout

lemma ScalarField.items_eq_layout (field : ScalarField) {ν : Type} {node : Layer ν}
    (h : field.Holds node) (depth : Nat) :
    field.items node (depth + 1) = (field.layout node).items depth := by
  obtain ⟨type, name, cardinality⟩ := field
  cases cardinality with
  | single =>
    obtain ⟨value, hslot, htype⟩ := h
    rw [items_of_single hslot htype, layout, hslot]
    rfl
  | list =>
    obtain ⟨values, hslot, htypes⟩ := h
    rw [items_of_list hslot htypes, layout, hslot]
    dsimp only
    rw [Layout.items_own_cons, Layout.items, Layout.lines, List.map_map, List.map_map]
    rfl

lemma ChildField.items_eq_layout (field : ChildField) (place : Nat) {node : Layer Node}
    (h : field.Holds node) {list : Node → Listing} {lay : Node → Layout}
    (hbelow : ∀ child ∈ node.childrenIn field.name, ∀ depth,
      list child depth = (lay child).items depth) (depth : Nat) :
    field.items (node.mapChildren list) (depth + 1) =
      (field.layout place (node.mapChildren lay)).items depth := by
  obtain ⟨name, cardinality⟩ := field
  unfold Layer.childrenIn at hbelow
  cases cardinality with
  | single =>
    obtain ⟨child, hslot⟩ := h
    rw [hslot] at hbelow
    rw [items_of_single list hslot, layout, Layer.get?_mapChildren, hslot]
    refine Eq.trans ?_ (Layout.items_below depth (.single place) _).symm
    cases child with
    | none => rfl
    | some child => exact hbelow child (by simp [ChildSlot.toList]) (depth + 1)
  | list =>
    obtain ⟨children, hslot⟩ := h
    rw [hslot] at hbelow
    have hitems : Layout.items depth ((children.map lay).zipIdx.flatMap fun item =>
        item.1.below (.item place item.2)) =
          (children.map lay).flatMap fun child => child.items (depth + 2) :=
      Layout.items_flatMap_zipIdx fun child _ index =>
        Layout.items_below depth (.item place index) child
    rw [items_of_list list hslot, layout, Layer.get?_mapChildren, hslot, Option.map_some,
      Option.elim_some, ChildSlot.mapChildren, ChildSlot.layout, Layout.items_own_cons, hitems,
      List.length_map, List.flatMap_map]
    refine congrArg (_ :: ·) (List.flatMap_congr fun child hchild => ?_)
    exact hbelow child hchild (depth + 2)
  | dict =>
    obtain ⟨entries, hslot⟩ := h
    rw [hslot] at hbelow
    have hitems : Layout.items depth ((entries.map lay).entries.zipIdx.flatMap fun item =>
        .own .key ("[" ++ item.1.1 ++ "]:") :: item.1.2.below (.entry place item.2)) =
          (entries.map lay).entries.flatMap fun entry =>
            .line (.key entry.1 (depth + 3)) :: entry.2.items (depth + 3) :=
      Layout.items_flatMap_zipIdx fun entry _ index =>
        congrArg (_ :: ·) (Layout.items_below depth (.entry place index) entry.2)
    rw [items_of_dict list hslot, layout, Layer.get?_mapChildren, hslot, Option.map_some,
      Option.elim_some, ChildSlot.mapChildren, ChildSlot.layout, Layout.items_own_cons, hitems,
      Table.size_map, Table.map, List.flatMap_map]
    refine congrArg (_ :: ·) (List.flatMap_congr fun entry hentry => congrArg (_ :: ·) ?_)
    exact hbelow entry.2 (List.mem_map_of_mem hentry) (depth + 3)

lemma Node.Conforms.items_eq_layout {schema : Schema} {tree : Node} (h : tree.Conforms schema)
    (depth : Nat) :
    tree.fold schema.itemsLayer depth = (tree.fold schema.layoutLayer).items depth := by
  induction h generalizing depth with
  | mk layer descriptor hregistered hscalars hchildren hbelow ih =>
    have hscalars : Layout.items depth (descriptor.scalars.flatMap fun field =>
        field.layout (layer.mapChildren (fold schema.layoutLayer))) =
          descriptor.scalars.flatMap fun field =>
            field.items (layer.mapChildren (fold schema.itemsLayer)) (depth + 1) :=
      Layout.items_flatMap fun field hfield =>
        (field.items_eq_layout (hscalars field hfield) depth).symm
    have hchildren : Layout.items depth (descriptor.children.zipIdx.flatMap fun declared =>
        declared.1.layout declared.2 (layer.mapChildren (fold schema.layoutLayer))) =
          descriptor.children.flatMap fun field =>
            field.items (layer.mapChildren (fold schema.itemsLayer)) (depth + 1) :=
      Layout.items_flatMap_zipIdx fun field hfield place =>
        (field.items_eq_layout place (hchildren field hfield) (ih field hfield) depth).symm
    rw [fold_mk, fold_mk, Schema.itemsLayer, Schema.layoutLayer, Layer.tag_mapChildren,
      Layer.tag_mapChildren, hregistered, Option.elim_some,
      Layout.items_own_cons, Descriptor.layout, Layout.items_append, hscalars, hchildren,
      ← Schema.name_of_get? hregistered]
    rfl

lemma Schema.leading_listing_eq {schema : Schema} {node : Option Node}
    (h : ∀ tree ∈ node, tree.Conforms schema) (depth : Nat) :
    Item.leading (schema.listing node depth) = (schema.layout node).lines depth := by
  have hlisting : schema.listing node depth = (schema.layout node).items depth := by
    cases node with
    | none => rfl
    | some tree => exact (h tree rfl).items_eq_layout depth
  have hlines := (map_leading_listing h depth).trans hlisting
  exact List.map_injective_iff.2 (fun _ _ => Item.line.inj) hlines

end TreeDump
