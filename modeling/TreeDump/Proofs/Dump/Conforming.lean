import TreeDump.Proofs.Dump.Writing

/-!
# Trees that conform to a schema

A tree conforms to a schema if its tag is registered, its declared fields are there as declared, and
all trees in its declared children conform. Those are the trees whose listings have no defect. A
dump of any other tree ends with the first defect of its listing, after the lines before it.
-/

namespace TreeDump

namespace ScalarField

/-- A node has a scalar field as declared: present, of its cardinality, with values of its type. -/
def Holds (field : ScalarField) {ν : Type} (node : Layer ν) : Prop :=
  match field.cardinality with
  | .single =>
    ∃ value, node.scalars.get? field.name = some (.single value) ∧ value.type = field.type
  | .list =>
    ∃ values, node.scalars.get? field.name = some (.list values) ∧
      ∀ value ∈ values, value.type = field.type

end ScalarField

namespace ChildField

/-- A node has a child field as declared: present and of its cardinality. -/
def Holds (field : ChildField) {ν : Type} (node : Layer ν) : Prop :=
  match field.cardinality with
  | .single => ∃ child, node.children.get? field.name = some (.single child)
  | .list => ∃ children, node.children.get? field.name = some (.list children)
  | .dict => ∃ entries, node.children.get? field.name = some (.dict entries)

end ChildField

namespace Layer

def childrenIn {ν : Type} (layer : Layer ν) (field : String) : List ν :=
  ((layer.children.get? field).map ChildSlot.toList).getD []

end Layer

/-- A tree that conforms to a schema. -/
inductive Node.Conforms (schema : Schema) : Node → Prop where
  | mk (layer : Layer Node) (descriptor : Descriptor)
      (registered : schema.get? layer.tag = some descriptor)
      (scalars : ∀ field ∈ descriptor.scalars, field.Holds layer)
      (children : ∀ field ∈ descriptor.children, field.Holds layer)
      (below : ∀ field ∈ descriptor.children, ∀ child ∈ layer.childrenIn field.name,
        Conforms schema child) :
      Conforms schema (.mk layer)

namespace Item

def Sound : Item → Prop
  | line _ => True
  | defect _ => False

@[simp] lemma sound_line (line : Line) : (Item.line line).Sound := trivial

@[simp] lemma not_sound_defect (error : DumpError) : ¬ (defect error).Sound := fun h => h

lemma outcome_eq_ok_iff (items : List Item) :
    outcome items = .ok () ↔ ∀ item ∈ items, item.Sound := by
  induction items with
  | nil => simp [outcome]
  | cons item items ih => cases item <;> simp [outcome, ih]

lemma map_leading {items : List Item} (h : ∀ item ∈ items, item.Sound) :
    (leading items).map line = items := by
  induction items with
  | nil => rfl
  | cons item items ih =>
    obtain ⟨hitem, hitems⟩ := List.forall_mem_cons.1 h
    cases item with
    | line first => rw [leading, List.map_cons, ih hitems]
    | defect error => exact hitem.elim

end Item

section Found

variable {ν : Type} {node : Layer ν} {name : String}

lemma ScalarField.items_of_single {type : FieldType} {value : Scalar}
    (hslot : node.scalars.get? name = some (.single value)) (htype : value.type = type)
    (depth : Nat) :
    items ⟨type, name, .single⟩ node depth = [.line (.field name value.text (depth + 1))] := by
  simp [items, lines?, hslot, htype]

lemma ScalarField.items_of_list {type : FieldType} {values : List Scalar}
    (hslot : node.scalars.get? name = some (.list values))
    (htypes : ∀ value ∈ values, value.type = type) (depth : Nat) :
    items ⟨type, name, .list⟩ node depth =
      .line (.list values.length (depth + 1)) ::
        values.map fun value => .line (.field type.name value.text (depth + 2)) := by
  simp only [items, hslot, Option.bind_some, lines?, true_and, if_pos htypes, List.map_cons,
    List.map_map]
  rfl

lemma ChildField.items_of_single (list : ν → Listing) {child : Option ν}
    (hslot : node.children.get? name = some (.single child)) (depth : Nat) :
    items ⟨name, .single⟩ (node.mapChildren list) depth =
      Listing.optional (child.map list) depth := by
  rw [items, Layer.get?_mapChildren, hslot]
  rfl

lemma ChildField.items_of_list (list : ν → Listing) {children : List ν}
    (hslot : node.children.get? name = some (.list children)) (depth : Nat) :
    items ⟨name, .list⟩ (node.mapChildren list) depth =
      .line (.list children.length (depth + 1)) ::
        children.flatMap fun child => list child (depth + 1) := by
  simp only [items, Layer.get?_mapChildren, hslot, Option.map_some, Option.bind_some,
    ChildSlot.mapChildren, items?, if_true, Option.getD_some, List.length_map, List.flatMap_map]

lemma ChildField.items_of_dict (list : ν → Listing) {entries : Table ν}
    (hslot : node.children.get? name = some (.dict entries)) (depth : Nat) :
    items ⟨name, .dict⟩ (node.mapChildren list) depth =
      .line (.dict entries.size (depth + 1)) ::
        entries.entries.flatMap fun entry =>
          .line (.key entry.1 (depth + 2)) :: list entry.2 (depth + 2) := by
  simp only [items, Layer.get?_mapChildren, hslot, Option.map_some, Option.bind_some,
    ChildSlot.mapChildren, items?, if_true, Option.getD_some, Table.size_map]
  rw [Table.map, List.flatMap_map]

end Found

lemma ScalarField.sound_items (field : ScalarField) {ν : Type} (node : Layer ν) (depth : Nat) :
    (∀ item ∈ field.items node depth, item.Sound) ↔ field.Holds node := by
  have hlines : (∀ item ∈ field.items node depth, item.Sound) ↔
      ((node.scalars.get? field.name).bind (field.lines? depth)).isSome := by
    unfold items
    cases (node.scalars.get? field.name).bind (field.lines? depth) <;> simp
  rw [hlines]
  obtain ⟨type, name, cardinality⟩ := field
  unfold Holds lines?
  rcases node.scalars.get? name with _ | value | values <;> cases cardinality <;> simp

lemma Layer.mem_nodes {ν : Type} {layer : Layer ν} {field : String} {child : ν}
    (h : child ∈ layer.childrenIn field) : child ∈ layer.nodes := by
  unfold childrenIn Table.get? at h
  unfold nodes
  cases hslot : layer.children.entries.lookup field with
  | none =>
    rw [hslot] at h
    cases h
  | some slot =>
    rw [hslot] at h
    obtain ⟨front, back, hentries, -⟩ := List.lookup_eq_some_iff.1 hslot
    exact List.mem_flatMap.2 ⟨(field, slot), by simp [hentries], h⟩

lemma ChildField.sound_items (field : ChildField) (node : Layer Node) (list : Node → Listing)
    (P : Node → Prop)
    (h : ∀ child ∈ node.nodes, ∀ depth, (∀ item ∈ list child depth, item.Sound) ↔ P child)
    (depth : Nat) :
    (∀ item ∈ field.items (node.mapChildren list) depth, item.Sound) ↔
      field.Holds node ∧ ∀ child ∈ node.childrenIn field.name, P child := by
  obtain ⟨name, cardinality⟩ := field
  have hchild : ∀ child ∈ node.childrenIn name, ∀ depth,
      (∀ item ∈ list child depth, item.Sound) ↔ P child :=
    fun child hmem => h child (Layer.mem_nodes hmem)
  unfold items Holds
  unfold Layer.childrenIn at hchild ⊢
  simp only [Layer.get?_mapChildren]
  rcases hslot : node.children.get? name with _ | child | children | entries
  · cases cardinality <;> simp
  · rw [hslot] at hchild
    cases cardinality with
    | single =>
      cases child with
      | none => simp [ChildSlot.mapChildren, items?, Listing.optional, ChildSlot.toList]
      | some child =>
        simpa [ChildSlot.mapChildren, items?, Listing.optional, ChildSlot.toList] using
          hchild child (by simp [ChildSlot.toList]) depth
    | _ => simp [ChildSlot.mapChildren, items?]
  · rw [hslot] at hchild
    cases cardinality with
    | list =>
      have hall : (∀ child ∈ children, ∀ item ∈ list child (depth + 1), item.Sound) ↔
          ∀ child ∈ children, P child :=
        forall₂_congr fun child hmem => hchild child hmem (depth + 1)
      simp only [Option.map_some, ChildSlot.mapChildren, Option.bind_some, items?, if_true,
        Option.getD_some, List.forall_mem_cons, List.flatMap_map, List.forall_mem_flatMap,
        Item.sound_line, true_and, hall]
      simp [ChildSlot.toList]
    | _ => simp [ChildSlot.mapChildren, items?]
  · rw [hslot] at hchild
    cases cardinality with
    | dict =>
      have hall : (∀ entry ∈ entries.entries, ∀ item ∈ list entry.2 (depth + 2), item.Sound) ↔
          ∀ entry ∈ entries.entries, P entry.2 :=
        forall₂_congr fun entry hmem => hchild entry.2 (List.mem_map_of_mem hmem) (depth + 2)
      simp only [Option.map_some, ChildSlot.mapChildren, Option.bind_some, items?, if_true,
        Option.getD_some, List.forall_mem_cons, Table.map, List.flatMap_map,
        List.forall_mem_flatMap, Item.sound_line, true_and, hall, ChildSlot.toList,
        List.forall_mem_map]
      simp
    | _ => simp [ChildSlot.mapChildren, items?]

/-- The trees that conform are those that are listed without a defect. -/
theorem Node.sound_fold_iff (schema : Schema) (node : Node) (depth : Nat) :
    (∀ item ∈ Node.fold schema.itemsLayer node depth, item.Sound) ↔ node.Conforms schema := by
  induction node using Node.induct generalizing depth with
  | step layer ih =>
    rw [Node.fold_mk]
    unfold Schema.itemsLayer
    rw [Layer.tag_mapChildren]
    cases hdescriptor : schema.get? layer.tag with
    | none =>
      simp only [List.mem_singleton, forall_eq, Item.not_sound_defect, false_iff]
      intro hconforms
      cases hconforms with
      | mk _ descriptor hregistered =>
        rw [hdescriptor] at hregistered
        cases hregistered
    | some descriptor =>
      have hscalars : ∀ field ∈ descriptor.scalars, (∀ item ∈ field.items
          (layer.mapChildren (Node.fold schema.itemsLayer)) (depth + 1), item.Sound) ↔
            field.Holds layer :=
        fun field _ => field.sound_items _ _
      have hchildren := fun (field : ChildField) =>
        field.sound_items layer (Node.fold schema.itemsLayer) (Conforms schema)
          (fun child hchild => ih child hchild) (depth + 1)
      have hitems : (∀ item ∈ descriptor.items (layer.mapChildren (Node.fold schema.itemsLayer))
          (depth + 1), item.Sound) ↔
            (∀ field ∈ descriptor.scalars, field.Holds layer) ∧
              ∀ field ∈ descriptor.children, field.Holds layer ∧
                ∀ child ∈ layer.childrenIn field.name, child.Conforms schema := by
        rw [← forall₂_congr hscalars, ← forall₂_congr fun field _ => hchildren field]
        simp only [Descriptor.items, List.forall_mem_cons, Item.sound_line, true_and,
          List.forall_mem_append, List.forall_mem_flatMap]
      refine hitems.trans ⟨fun hall => ?_, fun hconforms => ?_⟩
      · obtain ⟨hscalars, hfields⟩ := hall
        exact .mk layer descriptor hdescriptor hscalars (fun field hfield => (hfields field hfield).1)
          fun field hfield => (hfields field hfield).2
      · cases hconforms with
        | mk _ found hregistered hscalars hfields hbelow =>
          obtain rfl : descriptor = found := by
            rw [hdescriptor] at hregistered
            exact Option.some.inj hregistered
          exact ⟨hscalars, fun field hfield => ⟨hfields field hfield, hbelow field hfield⟩⟩

instance : (item : Item) → Decidable item.Sound
  | .line _ => .isTrue trivial
  | .defect _ => .isFalse id

instance (schema : Schema) (node : Node) : Decidable (node.Conforms schema) :=
  decidable_of_iff _ (node.sound_fold_iff schema 0)

theorem Schema.sound_listing_iff (schema : Schema) (node : Option Node) (depth : Nat) :
    (∀ item ∈ schema.listing node depth, item.Sound) ↔ ∀ tree ∈ node, tree.Conforms schema := by
  cases node with
  | none => simp [Schema.listing, Listing.optional]
  | some tree =>
    simp only [Option.mem_def, Option.some.injEq, forall_eq']
    exact tree.sound_fold_iff schema depth

/-! ### Dumps of trees -/

namespace Schema

/-- The lines of a tree before the first field or node that is not as declared. -/
def leadingText (schema : Schema) (node : Option Node) (depth : Nat) : String :=
  Line.renderAll (Item.leading (schema.listing node depth))

/-- The failure for the first field or node of a tree that is not as declared. -/
def outcome (schema : Schema) (node : Option Node) (depth : Nat) : Except DumpError Unit :=
  Item.outcome (schema.listing node depth)

lemma outcome_eq_ok_iff (schema : Schema) (node : Option Node) (depth : Nat) :
    schema.outcome node depth = .ok () ↔ ∀ tree ∈ node, tree.Conforms schema :=
  (Item.outcome_eq_ok_iff _).trans (schema.sound_listing_iff node depth)

lemma map_leading_listing {schema : Schema} {node : Option Node}
    (h : ∀ tree ∈ node, tree.Conforms schema) (depth : Nat) :
    (Item.leading (schema.listing node depth)).map Item.line = schema.listing node depth :=
  Item.map_leading ((schema.sound_listing_iff node depth).2 h)

lemma printNode_eq_write (schema : Schema) (node : Option Node) (depth : Nat) :
    schema.printNode node depth =
      DumpM.write (schema.leadingText node depth) >>= fun _ =>
        DumpM.ofExcept (schema.outcome node depth) := by
  rw [printNode_eq_perform, DumpM.perform_eq_write]
  rfl

lemma printNode_eq_write_of_conforms {schema : Schema} {node : Option Node}
    (h : ∀ tree ∈ node, tree.Conforms schema) (depth : Nat) :
    schema.printNode node depth = DumpM.write (schema.leadingText node depth) := by
  rw [printNode_eq_write, (schema.outcome_eq_ok_iff node depth).2 h]
  exact bind_pure_unit

lemma runOn_printNode_of_fits {schema : Schema} {node : Option Node} {depth : Nat} {sink : Sink}
    (h : sink.Fits (schema.leadingText node depth)) :
    (schema.printNode node depth).runOn sink =
      (schema.outcome node depth, sink.take (schema.leadingText node depth)) := by
  rw [printNode_eq_write, DumpM.runOn_bind_ok (DumpM.runOn_write_of_fits h), DumpM.runOn_ofExcept]

/-- A dump into a sink with room for it succeeds exactly for the trees that conform. It writes the
lines before the first defect of the listing, and fails with that defect. -/
theorem runOn_printNode (schema : Schema) (node : Option Node) (depth : Nat) (sink : Sink)
    (h : sink.Fits (schema.leadingText node depth)) :
    (((schema.printNode node depth).runOn sink).1 = .ok () ↔
        ∀ tree ∈ node, tree.Conforms schema) ∧
      (schema.printNode node depth).runOn sink =
        (schema.outcome node depth, sink.take (schema.leadingText node depth)) := by
  rw [runOn_printNode_of_fits h]
  exact ⟨schema.outcome_eq_ok_iff node depth, rfl⟩

end Schema

/-- Crates hold values and trees of every cardinality. -/
def crateSchema : Schema :=
  ⟨[⟨"Crate", [⟨.identifier, "label", .single⟩, ⟨.int, "sizes", .list⟩],
      [⟨"lid", .single⟩, ⟨"items", .list⟩, ⟨"parts", .dict⟩]⟩,
    ⟨"IntInit", [⟨.int, "value", .single⟩], []⟩]⟩

/-- A crate whose only part has no value. -/
def crate : Node :=
  .mk ⟨"Crate", ⟨[("label", .single (.identifier "c")), ("sizes", .list [.int 1, .int (-2)])]⟩,
    ⟨[("lid", .single none),
      ("items", .list [.mk ⟨"IntInit", ⟨[("value", .single (.int 3))]⟩, .empty⟩]),
      ("parts", .dict ⟨[("a", .mk ⟨"IntInit", .empty, .empty⟩)]⟩)]⟩⟩

/-- The text before the missing value, which just fits. -/
def crateText : String :=
  "\nCrate:\n  label: c\n  List[2]:\n    TInt: 1\n    TInt: -2\n  None:\n  List[1]:" ++
    "\n    IntInit:\n      value: 3\n  Dict[1]:\n    [a]:\n      IntInit:"

/-- The markers and keys in front of the missing value are written, and nothing of the value is. -/
theorem runOn_printNode_crate :
    (crateSchema.printNode (some crate) 0).runOn (.new (some 136) false) =
      (.error (.fieldMismatch "IntInit" "value" (.scalar .int)),
        (Sink.new (some 136) false).take crateText) := by
  have htext : crateSchema.leadingText (some crate) 0 = crateText := by decide +kernel
  have hfits : (Sink.new (some 136) false).Fits (crateSchema.leadingText (some crate) 0) := by
    intro room hroom
    obtain rfl := Option.some.inj hroom
    rw [htext]
    decide +kernel
  obtain ⟨-, hrun⟩ := crateSchema.runOn_printNode (some crate) 0 _ hfits
  rw [hrun, htext]
  rfl

end TreeDump
