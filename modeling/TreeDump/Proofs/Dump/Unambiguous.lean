import TreeDump.Proofs.Dump.Declared
import TreeDump.Proofs.Dump.Unbroken

/-!
# Dumps determine trees

Two trees that conform to a schema are read off their lines side by side. At each step the lines of
both begin alike, whatever follows them, and then the same has been printed: a heading gives the tag
and with it the declared fields, a count says how many elements follow, and a line gives a value. So
conforming trees with the same dump have the same declared part.
-/

namespace TreeDump

namespace Scalar

lemma normal_eq_of_text {value value' : Scalar} (htype : value.type = value'.type)
    (h : value.text = value'.text) : value.normal = value'.normal := by
  cases value <;> cases value' <;> try cases htype
  · exact congrArg int (Int32.toInt_inj.1 (Decimal.ofInt_injective h))
  · exact congrArg long (Int64.toInt_inj.1 (Decimal.ofInt_injective h))
  · exact congrArg double (Binary64.normal_eq_of_text h)
  · exact congrArg uInt (UInt32.toNat_inj.1 (Decimal.ofNat_injective h))
  · exact congrArg uLong (UInt64.toNat_inj.1 (Decimal.ofNat_injective h))
  · exact congrArg identifier h
  · next value value' =>
    cases value <;> cases value' <;> first | rfl | exact absurd h (by decide)

end Scalar

def Item.render : Item → String
  | .line held => held.render
  | .defect _ => ""

def renderItems (items : List Item) : List String := items.map Item.render

section

variable {α β γ : Type} {r r' : List String}

/-- Pieces for the same elements are read off one after the other. -/
lemma forall_of_flatMap {write write' : α → List String} {Same : α → Prop} (elements : List α)
    (hread : ∀ element ∈ elements, ∀ r r', write element ++ r = write' element ++ r' →
      Same element ∧ r = r')
    (h : elements.flatMap write ++ r = elements.flatMap write' ++ r') :
    (∀ element ∈ elements, Same element) ∧ r = r' := by
  induction elements with
  | nil => exact ⟨by simp, h⟩
  | cons element elements ih =>
    rw [List.flatMap_cons, List.flatMap_cons, List.append_assoc, List.append_assoc] at h
    obtain ⟨hsame, hrest⟩ := hread element (by simp) _ _ h
    obtain ⟨hall, hend⟩ := ih (fun e he => hread e (by simp [he])) hrest
    exact ⟨List.forall_mem_cons.2 ⟨hsame, hall⟩, hend⟩

lemma map_eq_of_flatMap {write : α → List String} {write' : β → List String} {key : α → γ}
    {key' : β → γ} {elements : List α} {elements' : List β}
    (hlength : elements.length = elements'.length)
    (hread : ∀ element ∈ elements, ∀ element' ∈ elements', ∀ r r',
      write element ++ r = write' element' ++ r' → key element = key' element' ∧ r = r')
    (h : elements.flatMap write ++ r = elements'.flatMap write' ++ r') :
    elements.map key = elements'.map key' ∧ r = r' := by
  induction elements generalizing elements' with
  | nil =>
    obtain rfl := List.length_eq_zero_iff.1 hlength.symm
    exact ⟨rfl, h⟩
  | cons element elements ih =>
    cases elements' with
    | nil => cases hlength
    | cons element' elements' =>
      rw [List.flatMap_cons, List.flatMap_cons, List.append_assoc, List.append_assoc] at h
      obtain ⟨hkey, hrest⟩ := hread element (by simp) element' (by simp) _ _ h
      obtain ⟨hkeys, hend⟩ := ih (Nat.succ.inj hlength)
        (fun e he e' he' => hread e (by simp [he]) e' (by simp [he'])) hrest
      exact ⟨by rw [List.map_cons, List.map_cons, hkey, hkeys], hend⟩

end

section

variable {ν ρ : Type} {depth : Nat} {r r' : List String}

lemma ScalarField.renderItems_single {type : FieldType} {name : String} {node : Layer ν}
    {value : Scalar} (hslot : node.scalars.get? name = some (.single value))
    (htype : value.type = type) (depth : Nat) :
    renderItems (items ⟨type, name, .single⟩ node depth) =
      [(Line.field name value.text (depth + 1)).render] := by
  rw [items_of_single hslot htype]
  rfl

lemma ScalarField.renderItems_list {type : FieldType} {name : String} {node : Layer ν}
    {values : List Scalar} (hslot : node.scalars.get? name = some (.list values))
    (htype : ∀ value ∈ values, value.type = type) (depth : Nat) :
    renderItems (items ⟨type, name, .list⟩ node depth) =
      (Line.list values.length (depth + 1)).render ::
        values.flatMap fun value => [(Line.field type.name value.text (depth + 2)).render] := by
  rw [items_of_list hslot htype, ← List.map_eq_flatMap, renderItems, List.map_cons, List.map_map]
  rfl

lemma ScalarField.normal_eq_of_items (field : ScalarField) {node : Layer ν} {other : Layer ρ}
    (hnode : field.Holds node) (hother : field.Holds other)
    (h : renderItems (field.items node depth) ++ r = renderItems (field.items other depth) ++ r') :
    (node.scalars.get? field.name).map ScalarSlot.normal =
        (other.scalars.get? field.name).map ScalarSlot.normal ∧
      r = r' := by
  obtain ⟨type, name, cardinality⟩ := field
  cases cardinality with
  | single =>
    obtain ⟨value, hslot, htype⟩ := hnode
    obtain ⟨value', hslot', htype'⟩ := hother
    rw [renderItems_single hslot htype, renderItems_single hslot' htype'] at h
    obtain ⟨hline, hrest⟩ := List.cons.inj h
    have hvalue := Scalar.normal_eq_of_text (htype.trans htype'.symm) (Line.value_eq_of_render hline)
    exact ⟨by simp [hslot, hslot', ScalarSlot.normal, hvalue], hrest⟩
  | list =>
    obtain ⟨values, hslot, htypes⟩ := hnode
    obtain ⟨values', hslot', htypes'⟩ := hother
    rw [renderItems_list hslot htypes, renderItems_list hslot' htypes', List.cons_append,
      List.cons_append] at h
    obtain ⟨hcount, helements⟩ := List.cons.inj h
    have hlength := Line.count_eq_of_render_list hcount
    have hread : ∀ value ∈ values, ∀ value' ∈ values', ∀ r r',
        [(Line.field type.name value.text (depth + 2)).render] ++ r =
          [(Line.field type.name value'.text (depth + 2)).render] ++ r' →
            value.normal = value'.normal ∧ r = r' := by
      intro value hvalue value' hvalue' r r' hlines
      obtain ⟨hline, hrest⟩ := List.cons.inj hlines
      have htype := (htypes value hvalue).trans (htypes' value' hvalue').symm
      exact ⟨Scalar.normal_eq_of_text htype (Line.value_eq_of_render hline), hrest⟩
    obtain ⟨hvalues, hrest⟩ := map_eq_of_flatMap hlength hread helements
    exact ⟨by simp [hslot, hslot', ScalarSlot.normal, hvalues], hrest⟩

end

/-! ### Trees -/

section

variable {schema : Schema} {depth : Nat} {r r' : List String}

/-- The lines of a tree at any depth, with something after them. -/
def treeLines (schema : Schema) (tree : Node) (depth : Nat) : List String :=
  renderItems (Node.fold schema.itemsLayer tree depth)

def optionalLines (schema : Schema) (tree : Option Node) (depth : Nat) : List String :=
  renderItems (schema.listing tree depth)

/-- A tree whose lines determine its declared part among the trees that conform. -/
def Node.Readable (schema : Schema) (tree : Node) : Prop :=
  ∀ other, other.Conforms schema → ∀ depth r r',
    treeLines schema tree depth ++ r = treeLines schema other depth ++ r' →
      schema.declared tree = schema.declared other ∧ r = r'

lemma Schema.name_of_get? {name : String} {descriptor : Descriptor}
    (h : schema.get? name = some descriptor) : descriptor.name = name :=
  of_decide_eq_true (List.find?_some (p := fun d : Descriptor => decide (d.name = name)) h)

lemma treeLines_mk {layer : Layer Node} {descriptor : Descriptor}
    (h : schema.get? layer.tag = some descriptor) (depth : Nat) :
    treeLines schema (.mk layer) depth = (Line.heading layer.tag (depth + 1)).render ::
      (descriptor.scalars.flatMap (fun field => renderItems (field.items layer (depth + 1))) ++
        descriptor.children.flatMap fun field => renderItems
          (field.items (layer.mapChildren (Node.fold schema.itemsLayer)) (depth + 1))) := by
  have hitems : Node.fold schema.itemsLayer (.mk layer) depth =
      descriptor.items (layer.mapChildren (Node.fold schema.itemsLayer)) (depth + 1) := by
    rw [Node.fold_mk, Schema.itemsLayer, Layer.tag_mapChildren, h]
  rw [treeLines, hitems, ← Schema.name_of_get? h]
  simp only [renderItems, Descriptor.items, List.map_cons, List.map_append, List.map_flatMap]
  rfl

/-- A tree that conforms is not printed like an absent one. -/
lemma treeLines_ne_none (hnone : "None" ∉ schema.names) {tree : Node} (h : tree.Conforms schema) :
    treeLines schema tree depth ++ r ≠ (Line.heading "None" (depth + 1)).render :: r' := by
  intro hlines
  cases h with
  | mk layer descriptor hregistered =>
    rw [treeLines_mk hregistered, List.cons_append] at hlines
    have htag := Line.label_eq_of_render (List.cons.inj hlines).1
    have hname : descriptor.name ∈ schema.names :=
      List.mem_map_of_mem (List.mem_of_find?_eq_some hregistered)
    rw [Schema.name_of_get? hregistered] at hname
    exact hnone (htag ▸ hname)

lemma declared_eq_of_optionalLines (hnone : "None" ∉ schema.names) {tree other : Option Node}
    (hreads : ∀ child ∈ tree, child.Readable schema)
    (htree : ∀ child ∈ tree, child.Conforms schema)
    (hother : ∀ child ∈ other, child.Conforms schema)
    (h : optionalLines schema tree depth ++ r = optionalLines schema other depth ++ r') :
    tree.map schema.declared = other.map schema.declared ∧ r = r' := by
  cases tree with
  | none =>
    cases other with
    | none => exact ⟨rfl, (List.cons.inj h).2⟩
    | some other => exact absurd h.symm (treeLines_ne_none hnone (hother other rfl))
  | some tree =>
    cases other with
    | none => exact absurd h (treeLines_ne_none hnone (htree tree rfl))
    | some other =>
      obtain ⟨hdeclared, hrest⟩ := hreads tree rfl other (hother other rfl) depth r r' h
      exact ⟨congrArg some hdeclared, hrest⟩

lemma ChildField.renderItems_single {name : String} {node : Layer Node} {child : Option Node}
    (hslot : node.children.get? name = some (.single child)) (depth : Nat) :
    renderItems (items ⟨name, .single⟩ (node.mapChildren (Node.fold schema.itemsLayer)) depth) =
      optionalLines schema child depth := by
  rw [items_of_single _ hslot]
  rfl

lemma ChildField.renderItems_list {name : String} {node : Layer Node} {children : List Node}
    (hslot : node.children.get? name = some (.list children)) (depth : Nat) :
    renderItems (items ⟨name, .list⟩ (node.mapChildren (Node.fold schema.itemsLayer)) depth) =
      (Line.list children.length (depth + 1)).render ::
        children.flatMap fun child => treeLines schema child (depth + 1) := by
  rw [items_of_list _ hslot, renderItems, List.map_cons, List.map_flatMap]
  rfl

lemma ChildField.renderItems_dict {name : String} {node : Layer Node} {entries : Table Node}
    (hslot : node.children.get? name = some (.dict entries)) (depth : Nat) :
    renderItems (items ⟨name, .dict⟩ (node.mapChildren (Node.fold schema.itemsLayer)) depth) =
      (Line.dict entries.size (depth + 1)).render ::
        entries.entries.flatMap fun entry =>
          (Line.key entry.1 (depth + 2)).render ::
            treeLines schema entry.2 (depth + 2) := by
  rw [items_of_dict _ hslot, renderItems, List.map_cons, List.map_flatMap]
  rfl

lemma ChildField.declared_eq_of_items (field : ChildField) (hnone : "None" ∉ schema.names)
    {node other : Layer Node} (hnode : field.Holds node) (hother : field.Holds other)
    (hreads : ∀ child ∈ node.childrenIn field.name, child.Readable schema)
    (hconforms : ∀ child ∈ node.childrenIn field.name, child.Conforms schema)
    (hconforms' : ∀ child ∈ other.childrenIn field.name, child.Conforms schema)
    (h : renderItems (field.items (node.mapChildren (Node.fold schema.itemsLayer)) depth) ++ r =
      renderItems (field.items (other.mapChildren (Node.fold schema.itemsLayer)) depth) ++ r') :
    (node.children.get? field.name).map (·.mapChildren schema.declared) =
        (other.children.get? field.name).map (·.mapChildren schema.declared) ∧
      r = r' := by
  obtain ⟨name, cardinality⟩ := field
  unfold Layer.childrenIn at hreads hconforms hconforms'
  cases cardinality with
  | single =>
    obtain ⟨child, hslot⟩ := hnode
    obtain ⟨child', hslot'⟩ := hother
    rw [hslot] at hreads hconforms
    rw [hslot'] at hconforms'
    rw [renderItems_single hslot, renderItems_single hslot'] at h
    obtain ⟨hdeclared, hrest⟩ := declared_eq_of_optionalLines hnone
      (fun c hc => hreads c (by simpa [ChildSlot.toList] using hc))
      (fun c hc => hconforms c (by simpa [ChildSlot.toList] using hc))
      (fun c hc => hconforms' c (by simpa [ChildSlot.toList] using hc)) h
    exact ⟨by simp [hslot, hslot', ChildSlot.mapChildren, hdeclared], hrest⟩
  | list =>
    obtain ⟨children, hslot⟩ := hnode
    obtain ⟨children', hslot'⟩ := hother
    rw [hslot] at hreads
    rw [hslot'] at hconforms'
    rw [renderItems_list hslot, renderItems_list hslot', List.cons_append, List.cons_append] at h
    obtain ⟨hcount, helements⟩ := List.cons.inj h
    have hlength := Line.count_eq_of_render_list hcount
    obtain ⟨hdeclared, hrest⟩ := map_eq_of_flatMap hlength
      (fun child hchild child' hchild' => hreads child hchild child' (hconforms' child' hchild') _)
      helements
    exact ⟨by simp [hslot, hslot', ChildSlot.mapChildren, hdeclared], hrest⟩
  | dict =>
    obtain ⟨entries, hslot⟩ := hnode
    obtain ⟨entries', hslot'⟩ := hother
    rw [hslot] at hreads
    rw [hslot'] at hconforms'
    rw [renderItems_dict hslot, renderItems_dict hslot', List.cons_append, List.cons_append] at h
    obtain ⟨hcount, helements⟩ := List.cons.inj h
    have hlength := Line.count_eq_of_render_dict hcount
    have hread : ∀ entry ∈ entries.entries, ∀ entry' ∈ entries'.entries, ∀ r r',
        ((Line.key entry.1 (depth + 2)).render ::
            treeLines schema entry.2 (depth + 2)) ++ r =
          ((Line.key entry'.1 (depth + 2)).render ::
            treeLines schema entry'.2 (depth + 2)) ++ r' →
          (entry.1, schema.declared entry.2) = (entry'.1, schema.declared entry'.2) ∧ r = r' := by
      intro entry hentry entry' hentry' r r' hlines
      obtain ⟨hheading, htree⟩ := List.cons.inj hlines
      have hkey := Line.key_eq_of_render hheading
      obtain ⟨hdeclared, hrest⟩ := hreads entry.2 (List.mem_map_of_mem hentry) entry'.2
        (hconforms' entry'.2 (List.mem_map_of_mem hentry')) _ r r' htree
      exact ⟨by rw [hkey, hdeclared], hrest⟩
    obtain ⟨hdeclared, hrest⟩ := map_eq_of_flatMap hlength hread helements
    exact ⟨by simp [hslot, hslot', ChildSlot.mapChildren, Table.map, hdeclared], hrest⟩

lemma Schema.declared_congr {layer layer' : Layer Node} {descriptor : Descriptor}
    (hregistered : schema.get? layer.tag = some descriptor) (htag : layer.tag = layer'.tag)
    (hscalars : ∀ field ∈ descriptor.scalars,
      (layer.scalars.get? field.name).map ScalarSlot.normal =
        (layer'.scalars.get? field.name).map ScalarSlot.normal)
    (hchildren : ∀ field ∈ descriptor.children,
      (layer.children.get? field.name).map (·.mapChildren schema.declared) =
        (layer'.children.get? field.name).map (·.mapChildren schema.declared)) :
    schema.declared (.mk layer) = schema.declared (.mk layer') := by
  have hselected : (layer.scalars.map ScalarSlot.normal).select
      (descriptor.scalars.map ScalarField.name) =
        (layer'.scalars.map ScalarSlot.normal).select (descriptor.scalars.map ScalarField.name) := by
    apply Table.select_congr
    intro name hname
    obtain ⟨field, hfield, rfl⟩ := List.mem_map.1 hname
    rw [Table.get?_map, Table.get?_map, hscalars field hfield]
  have hbelow : (layer.mapChildren schema.declared).children.select
      (descriptor.children.map ChildField.name) =
        (layer'.mapChildren schema.declared).children.select
          (descriptor.children.map ChildField.name) := by
    apply Table.select_congr
    intro name hname
    obtain ⟨field, hfield, rfl⟩ := List.mem_map.1 hname
    rw [Layer.get?_mapChildren, Layer.get?_mapChildren, hchildren field hfield]
  rw [declared_mk, declared_mk]
  simp only [declaredLayer, Layer.tag_mapChildren, ← htag, hregistered, Layer.scalars_mapChildren,
    hselected, hbelow]

/-- The lines of a tree that conforms determine its declared part. The tag says which fields follow,
so two trees are read by one descriptor. -/
theorem Node.readable_of_conforms (hnone : "None" ∉ schema.names) {tree : Node}
    (h : tree.Conforms schema) : tree.Readable schema := by
  induction h with
  | mk layer descriptor hregistered hscalars hchildren hbelow ih =>
    intro other hother depth r r' hlines
    cases hother with
    | mk layer' descriptor' hregistered' hscalars' hchildren' hbelow' =>
      rw [treeLines_mk hregistered, treeLines_mk hregistered', List.cons_append,
        List.cons_append] at hlines
      obtain ⟨hheading, hfields⟩ := List.cons.inj hlines
      have htag := Line.label_eq_of_render hheading
      obtain rfl : descriptor = descriptor' := by
        rw [htag, hregistered'] at hregistered
        exact (Option.some.inj hregistered).symm
      rw [List.append_assoc, List.append_assoc] at hfields
      obtain ⟨hsame, hlines⟩ := forall_of_flatMap descriptor.scalars
        (fun field hfield _ _ => field.normal_eq_of_items (hscalars field hfield)
          (hscalars' field hfield)) hfields
      obtain ⟨hbelow, hrest⟩ := forall_of_flatMap descriptor.children
        (fun field hfield _ _ => field.declared_eq_of_items hnone (hchildren field hfield)
          (hchildren' field hfield) (ih field hfield) (hbelow field hfield) (hbelow' field hfield))
        hlines
      exact ⟨Schema.declared_congr hregistered htag hsame hbelow, hrest⟩

end

end TreeDump
