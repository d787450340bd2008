import TreeDump.Proofs.Dump.Layout

/-!
# Headings of dumps

A path from the root of a tree leads to a node, to an absent child, or to nothing. Main statement: a
dump of a tree that conforms is its layout, and the layout has one heading for each path that leads
to a node or an absent child, and no other headings.
-/

namespace TreeDump

namespace Edge

variable {ν : Type}

/-- The place of the field among the declared ones. -/
def place : Edge → Nat
  | single field => field
  | item field _ => field
  | entry field _ => field

/-- The child of a field at the end of an edge, which may be absent, if there is such an edge. -/
def childIn? : Edge → ChildSlot ν → Option (Option ν)
  | single _, .single child => some child
  | item _ index, .list children => children[index]?.map some
  | entry _ index, .dict entries => entries.entries[index]?.map fun entry => some entry.2
  | _, _ => none

/-- The child of a node at the end of an edge, which may be absent, if there is such an edge. -/
def child? (descriptor : Descriptor) (node : Layer ν) (edge : Edge) : Option (Option ν) := do
  let declared ← descriptor.children[edge.place]?
  edge.childIn? (← node.children.get? declared.name)

end Edge

namespace Schema

/-- What is reached from a tree along a path: a node or an absent child, if there is such a path. -/
def follow? (schema : Schema) : List Edge → Option Node → Option (Option Node)
  | [], node => some node
  | edge :: path, node => do
    let owner ← node
    let descriptor ← schema.get? owner.tag
    let child ← edge.child? descriptor owner.layer
    schema.follow? path child

end Schema

/-- The heading of a node or of an absent child. -/
def headingText (node : Option Node) : String := (node.map Node.tag).getD "None" ++ ":"

namespace Layout

/-- The headings at the end of a path. -/
def headings (path : List Edge) (layout : Layout) : List String :=
  (layout.filter fun placed => placed.role = .heading ∧ placed.path = path).map PlacedLine.text

lemma headings_append (path : List Edge) (front back : Layout) :
    headings path (front ++ back) = front.headings path ++ back.headings path := by
  rw [headings, List.filter_append, List.map_append]
  rfl

lemma headings_flatMap {α : Type} (path : List Edge) (elements : List α) (layout : α → Layout) :
    headings path (elements.flatMap layout) =
      elements.flatMap fun element => (layout element).headings path := by
  rw [headings, List.filter_flatMap, List.map_flatMap]
  rfl

lemma headings_of_not_heading {role : Role} (h : role ≠ .heading) (path : List Edge)
    (text : String) (rest : Layout) :
    headings path (.own role text :: rest) = rest.headings path := by
  simp [headings, PlacedLine.own, h]

lemma headings_nil_below (edge : Edge) (layout : Layout) :
    (layout.below edge).headings [] = [] := by
  simp [headings, below, PlacedLine.below]

lemma headings_cons_below (edge other : Edge) (path : List Edge) (layout : Layout) :
    (layout.below other).headings (edge :: path) =
      if other = edge then layout.headings path else [] := by
  split
  · next h => simp [headings, below, h, List.filter_map, Function.comp_def, PlacedLine.below]
  · next h => simp [headings, below, h, List.filter_map, Function.comp_def, PlacedLine.below]

/-- Of pieces that are counted from a start, only one has something. -/
lemma flatMap_zipIdx_eq {α β : Type} {elements : List α} (start index : Nat)
    {piece : α × Nat → List β} (h : ∀ item, item.2 ≠ start + index → piece item = []) :
    (elements.zipIdx start).flatMap piece =
      elements[index]?.elim [] fun element => piece (element, start + index) := by
  induction elements generalizing start index with
  | nil => rfl
  | cons element elements ih =>
    rw [List.zipIdx_cons, List.flatMap_cons]
    cases index with
    | zero =>
      have hrest : (elements.zipIdx (start + 1)).flatMap piece = [] := by
        refine List.flatMap_eq_nil_iff.2 fun item hitem => h item ?_
        have hstart := List.le_snd_of_mem_zipIdx hitem
        omega
      rw [hrest, List.append_nil]
      rfl
    | succ index =>
      have hhead : piece (element, start) = [] := h _ (by dsimp only; omega)
      have hnext : start + 1 + index = start + (index + 1) := by omega
      rw [← hnext] at h ⊢
      rw [hhead, List.nil_append]
      exact ih (start + 1) index h

end Layout

lemma ScalarField.headings_layout (field : ScalarField) {ν : Type} (node : Layer ν)
    (path : List Edge) : (field.layout node).headings path = [] := by
  unfold layout
  rcases node.scalars.get? field.name with _ | value | values
  · rfl
  · exact Layout.headings_of_not_heading (by decide) ..
  · rw [Layout.headings_of_not_heading (by decide)]
    simp [Layout.headings, PlacedLine.ownValue, PlacedLine.own]

namespace ChildSlot

open Layout

/-- The lines about the children in a field have no headings but those of the children. -/
lemma headings_layout_eq_nil {place : Nat} {path : List Edge}
    (h : ∀ edge : Edge, edge.place = place → ∀ layout : Layout,
      (layout.below edge).headings path = []) (slot : ChildSlot Layout) :
    (slot.layout place).headings path = [] := by
  cases slot with
  | single child => exact h (.single place) rfl _
  | list children =>
    rw [layout, headings_of_not_heading (by decide), headings_flatMap]
    exact List.flatMap_eq_nil_iff.2 fun item _ => h (.item place item.2) rfl _
  | dict entries =>
    rw [layout, headings_of_not_heading (by decide), headings_flatMap]
    refine List.flatMap_eq_nil_iff.2 fun item _ => ?_
    rw [headings_of_not_heading (by decide)]
    exact h (.entry place item.2) rfl _

/-- The headings below an edge are those of the child at its end. -/
lemma headings_cons_layout (edge : Edge) (slot : ChildSlot Layout) (path : List Edge) :
    (slot.layout edge.place).headings (edge :: path) =
      (edge.childIn? slot).elim [] fun child => (Layout.optional child).headings path := by
  cases slot with
  | single child =>
    rw [layout, headings_cons_below]
    cases edge with
    | single field => exact if_pos rfl
    | item field index => exact if_neg (by simp)
    | entry field index => exact if_neg (by simp)
  | list children =>
    rw [layout, headings_of_not_heading (by decide), headings_flatMap]
    simp only [headings_cons_below]
    cases edge with
    | single field => simp [Edge.childIn?]
    | item field index =>
      rw [flatMap_zipIdx_eq 0 index fun item hitem => if_neg (by simpa [Edge.place] using hitem)]
      cases h : children[index]? with
      | none => simp [Edge.childIn?, h]
      | some child => simp [Edge.childIn?, Edge.place, Layout.optional, h]
    | entry field index => simp [Edge.childIn?]
  | dict entries =>
    rw [layout, headings_of_not_heading (by decide), headings_flatMap]
    simp only [headings_of_not_heading (by decide : Role.key ≠ .heading), headings_cons_below]
    cases edge with
    | single field => simp [Edge.childIn?]
    | item field index => simp [Edge.childIn?]
    | entry field index =>
      rw [flatMap_zipIdx_eq 0 index fun item hitem => if_neg (by simpa [Edge.place] using hitem)]
      cases h : entries.entries[index]? with
      | none => simp [Edge.childIn?, h]
      | some entry => simp [Edge.childIn?, Edge.place, Layout.optional, h]

end ChildSlot

namespace Descriptor

open Layout

lemma headings_nil_layout (descriptor : Descriptor) (node : Layer Layout) :
    (descriptor.layout node).headings [] = [] := by
  rw [layout, headings_append, headings_flatMap, headings_flatMap]
  refine List.append_eq_nil_iff.2 ⟨?_, ?_⟩
  · exact List.flatMap_eq_nil_iff.2 fun field _ => field.headings_layout node []
  · refine List.flatMap_eq_nil_iff.2 fun declared _ => ?_
    rw [ChildField.layout]
    cases node.children.get? declared.1.name with
    | none => rfl
    | some slot => exact slot.headings_layout_eq_nil fun edge _ => headings_nil_below edge

/-- Of the declared children only the field of the edge has anything at the path. -/
lemma headings_cons_layout (descriptor : Descriptor) (node : Layer Layout) (edge : Edge)
    (path : List Edge) :
    (descriptor.layout node).headings (edge :: path) =
      (edge.child? descriptor node).elim [] fun child => (Layout.optional child).headings path := by
  have hscalars : (descriptor.scalars.flatMap fun field =>
      (field.layout node).headings (edge :: path)) = [] :=
    List.flatMap_eq_nil_iff.2 fun field _ => field.headings_layout node _
  have hplaces : ∀ declared : ChildField × Nat, declared.2 ≠ 0 + edge.place →
      (declared.1.layout declared.2 node).headings (edge :: path) = [] := by
    intro declared hplace
    rw [Nat.zero_add] at hplace
    rw [ChildField.layout]
    cases node.children.get? declared.1.name with
    | none => rfl
    | some slot =>
      refine slot.headings_layout_eq_nil fun other hother layout => ?_
      rw [headings_cons_below, if_neg]
      rintro rfl
      exact hplace hother.symm
  rw [layout, headings_append, headings_flatMap, headings_flatMap, hscalars, List.nil_append,
    flatMap_zipIdx_eq 0 edge.place hplaces, Nat.zero_add]
  cases hfield : descriptor.children[edge.place]? with
  | none => simp [Edge.child?, hfield]
  | some field =>
    cases hslot : node.children.get? field.name with
    | none => simp [Edge.child?, ChildField.layout, headings, hfield, hslot]
    | some slot => simp [Edge.child?, ChildField.layout, slot.headings_cons_layout, hfield, hslot]

end Descriptor

lemma Edge.childIn?_mapChildren {ν ρ : Type} (f : ν → ρ) (slot : ChildSlot ν) (edge : Edge) :
    edge.childIn? (slot.mapChildren f) = (edge.childIn? slot).map (Option.map f) := by
  cases slot <;> cases edge <;>
    simp [childIn?, ChildSlot.mapChildren, Table.map, Function.comp_def]

lemma Edge.child?_mapChildren {ν ρ : Type} (f : ν → ρ) (descriptor : Descriptor) (node : Layer ν)
    (edge : Edge) :
    edge.child? descriptor (node.mapChildren f) =
      (edge.child? descriptor node).map (Option.map f) := by
  cases hfield : descriptor.children[edge.place]? with
  | none => simp [child?, hfield]
  | some field =>
    cases hslot : node.children.get? field.name with
    | none => simp [child?, Layer.get?_mapChildren, hfield, hslot]
    | some slot => simp [child?, Layer.get?_mapChildren, childIn?_mapChildren, hfield, hslot]

namespace Schema

open Layout

variable (schema : Schema)

lemma headings_nil_layoutLayer (node : Layer Layout) :
    (schema.layoutLayer node).headings [] = [node.tag ++ ":"] := by
  have hfields : headings [] ((schema.get? node.tag).elim [] fun descriptor =>
      descriptor.layout node) = [] := by
    cases schema.get? node.tag with
    | none => rfl
    | some descriptor => exact descriptor.headings_nil_layout node
  exact congrArg (_ :: ·) hfields

lemma headings_cons_layoutLayer (node : Layer Layout) (edge : Edge) (path : List Edge) :
    (schema.layoutLayer node).headings (edge :: path) =
      ((schema.get? node.tag).bind (edge.child? · node)).elim [] fun child =>
        (Layout.optional child).headings path := by
  rw [layoutLayer]
  cases schema.get? node.tag with
  | none => rfl
  | some descriptor => exact descriptor.headings_cons_layout node edge path

/-- A node and an absent child have one heading each, at the end of the path that leads to it. -/
lemma headings_layout (path : List Edge) (node : Option Node) :
    (schema.layout node).headings path = ((schema.follow? path node).map headingText).toList := by
  induction path generalizing node with
  | nil =>
    cases node with
    | none => rfl
    | some node =>
      obtain ⟨layer⟩ := node
      rw [layout, Option.map_some, Node.fold_mk]
      exact schema.headings_nil_layoutLayer _
  | cons edge path ih =>
    cases node with
    | none => rfl
    | some node =>
      obtain ⟨layer⟩ := node
      rw [layout, Option.map_some, Node.fold_mk]
      refine (schema.headings_cons_layoutLayer _ edge path).trans ?_
      rw [Layer.tag_mapChildren]
      cases hdescriptor : schema.get? layer.tag with
      | none => simp [follow?, Node.tag, Node.layer, hdescriptor]
      | some descriptor =>
        rw [Option.bind_some, Edge.child?_mapChildren]
        cases hchild : edge.child? descriptor layer with
        | none => simp [follow?, Node.tag, Node.layer, hdescriptor, hchild]
        | some child =>
          refine (ih child).trans ?_
          simp [follow?, Node.tag, Node.layer, hdescriptor, hchild]

/-- What is dumped of a tree that conforms is its layout, each line as deep as the path to its node
and its role say. There is one heading for each path that leads to a node or to an absent child, and
there are no other headings. -/
theorem printNode_eq_write_layout {node : Option Node} (h : ∀ tree ∈ node, tree.Conforms schema)
    (depth : Nat) :
    schema.printNode node depth =
        .write (Line.renderAll ((schema.layout node).lines depth)) ∧
      ∀ path, (schema.layout node).headings path =
        ((schema.follow? path node).map headingText).toList := by
  refine ⟨?_, fun path => schema.headings_layout path node⟩
  rw [printNode_eq_write_of_conforms h, leadingText, leading_listing_eq h]

end Schema

def shelfSchema : Schema :=
  ⟨[⟨"Shelf", [⟨.identifier, "title", .single⟩, ⟨.int, "codes", .list⟩],
      [⟨"left", .single⟩, ⟨"items", .list⟩, ⟨"index", .dict⟩]⟩,
    ⟨"Card", [], [⟨"next", .single⟩]⟩]⟩

def card (next : Option Node) : Node := .mk ⟨"Card", .empty, ⟨[("next", .single next)]⟩⟩

/-- A shelf without a title and with children of every cardinality. -/
def shelf : Node :=
  .mk ⟨"Shelf", ⟨[("title", .single (.identifier "")), ("codes", .list [.int 7])]⟩,
    ⟨[("left", .single none), ("items", .list [card none]),
      ("index", .dict ⟨[("k", card (some (card none)))]⟩)]⟩⟩

/-- The shelf below depth 2, and the heading at the end of a path through its map. -/
theorem printNode_shelf :
    shelfSchema.printNode (some shelf) 2 =
        .write ("\n    Shelf:\n      title:\n      List[1]:\n        TInt: 7\n      None:" ++
          "\n      List[1]:\n        Card:\n          None:\n      Dict[1]:\n        [k]:" ++
          "\n          Card:\n            Card:\n              None:") ∧
      (shelfSchema.layout (some shelf)).headings [.entry 2 0, .single 0, .single 0] =
        ["None:"] := by
  have hconforms : ∀ tree ∈ some shelf, tree.Conforms shelfSchema := by
    intro tree htree
    obtain rfl := Option.some.inj htree
    decide
  obtain ⟨hprint, hheadings⟩ := shelfSchema.printNode_eq_write_layout hconforms 2
  constructor
  · rw [hprint]
    apply congrArg DumpM.write
    decide +kernel
  · exact hheadings [.entry 2 0, .single 0, .single 0]

end TreeDump
