import TreeDump.Proofs.Dump.Conforming
import TreeDump.Proofs.Dump.Lines
import TreeDump.Proofs.Text.OneLine

/-!
# Trees on unbroken lines

A line of a dump breaks only if a name in the schema, an identifier or a key does. Numbers and counts
have no line breaks. So the listing of a tree without line breaks in its declared identifiers and
keys consists of unbroken lines.
-/

namespace TreeDump

namespace OneLine

/-- Only identifiers can have line breaks. -/
lemma scalarText {value : Scalar} (h : ∀ name, value = .identifier name → OneLine name) :
    OneLine value.text := by
  cases value with
  | int value => exact of_isDigit fun _ => Decimal.mem_ofInt
  | long value => exact of_isDigit fun _ => Decimal.mem_ofInt
  | double value => exact value.newline_notMem_text
  | uInt value => exact ofNat _
  | uLong value => exact ofNat _
  | identifier name => exact h name rfl
  | bool value => cases value <;> decide

lemma typeName (type : FieldType) : OneLine type.name := by
  cases type <;> decide

end OneLine

namespace Layer

variable {ν : Type} (layer : Layer ν) (field : String)

def scalarsIn : List Scalar := ((layer.scalars.get? field).map ScalarSlot.toList).getD []

def keysIn : List String := ((layer.children.get? field).map ChildSlot.keys).getD []

end Layer

/-- A schema whose names have no line breaks. -/
def Schema.OneLine (schema : Schema) : Prop :=
  ∀ descriptor ∈ schema.descriptors, ∀ name ∈ descriptor.name :: descriptor.fieldNames,
    TreeDump.OneLine name

/-- A tree of registered tags whose declared identifiers and keys have no line breaks. -/
inductive Node.OneLine (schema : Schema) : Node → Prop where
  | mk (layer : Layer Node) (descriptor : Descriptor)
      (registered : schema.get? layer.tag = some descriptor)
      (identifiers : ∀ field ∈ descriptor.scalars, ∀ name,
        Scalar.identifier name ∈ layer.scalarsIn field.name → TreeDump.OneLine name)
      (keys : ∀ field ∈ descriptor.children, ∀ key ∈ layer.keysIn field.name, TreeDump.OneLine key)
      (below : ∀ field ∈ descriptor.children, ∀ child ∈ layer.childrenIn field.name,
        OneLine schema child) :
      OneLine schema (.mk layer)

/-- A tree whose declared identifiers and keys have no line breaks. A tag that is not registered
declares nothing. -/
inductive Node.Unbroken (schema : Schema) : Node → Prop where
  | mk (layer : Layer Node)
      (identifiers : ∀ descriptor ∈ schema.get? layer.tag, ∀ field ∈ descriptor.scalars, ∀ name,
        Scalar.identifier name ∈ layer.scalarsIn field.name → TreeDump.OneLine name)
      (keys : ∀ descriptor ∈ schema.get? layer.tag, ∀ field ∈ descriptor.children,
        ∀ key ∈ layer.keysIn field.name, TreeDump.OneLine key)
      (below : ∀ descriptor ∈ schema.get? layer.tag, ∀ field ∈ descriptor.children,
        ∀ child ∈ layer.childrenIn field.name, Unbroken schema child) :
      Unbroken schema (.mk layer)

lemma Node.OneLine.unbroken {schema : Schema} {node : Node} (h : node.OneLine schema) :
    node.Unbroken schema := by
  induction h with
  | mk layer descriptor hregistered hidentifiers hkeys _ ih =>
    have hsame : ∀ found ∈ schema.get? layer.tag, found = descriptor := by
      intro found hfound
      rw [hregistered] at hfound
      exact (Option.some.inj hfound).symm
    constructor
    · intro found hfound
      exact hsame found hfound ▸ hidentifiers
    · intro found hfound
      exact hsame found hfound ▸ hkeys
    · intro found hfound
      exact hsame found hfound ▸ ih

def Item.Unbroken : Item → Prop
  | .line held => held.Unbroken
  | .defect _ => True

@[simp] lemma Item.unbroken_line (line : Line) : (Item.line line).Unbroken ↔ line.Unbroken := .rfl

@[simp] lemma Item.unbroken_defect (error : DumpError) : (Item.defect error).Unbroken := trivial

namespace Line

lemma unbroken_field {label value : String} (hlabel : OneLine label) (hvalue : OneLine value)
    (depth : Nat) : (field label value depth).Unbroken := by
  unfold field
  split
  · exact hlabel.append (by decide)
  · exact (hlabel.append (by decide)).append hvalue

lemma unbroken_heading {label : String} (hlabel : OneLine label) (depth : Nat) :
    (heading label depth).Unbroken :=
  hlabel.append (by decide)

lemma unbroken_list (count depth : Nat) : (list count depth).Unbroken :=
  (OneLine.append (by decide) (.ofNat count)).append (by decide)

lemma unbroken_dict (count depth : Nat) : (dict count depth).Unbroken :=
  (OneLine.append (by decide) (.ofNat count)).append (by decide)

lemma unbroken_key {name : String} (hname : OneLine name) (depth : Nat) :
    (key name depth).Unbroken :=
  (OneLine.append (by decide) hname).append (by decide)

end Line

lemma ScalarField.unbroken_items (field : ScalarField) {ν : Type} (node : Layer ν) (depth : Nat)
    (hname : OneLine field.name)
    (hvalues : ∀ name, Scalar.identifier name ∈ node.scalarsIn field.name → OneLine name) :
    ∀ item ∈ field.items node depth, item.Unbroken := by
  unfold items
  unfold Layer.scalarsIn at hvalues
  have hdefect : ∀ item ∈ [Item.defect (.fieldMismatch node.tag field.name field.shape)],
      item.Unbroken := by simp
  rcases hslot : node.scalars.get? field.name with _ | value | values
  · exact hdefect
  · rw [hslot] at hvalues
    simp only [Option.bind_some, lines?]
    by_cases hfits : field.cardinality = .single ∧ value.type = field.type
    · have hvalue : OneLine value.text :=
        .scalarText fun name hname => hvalues name (by simp [ScalarSlot.toList, hname])
      rw [if_pos hfits]
      simpa using Line.unbroken_field hname hvalue (depth + 1)
    · rw [if_neg hfits]
      exact hdefect
  · rw [hslot] at hvalues
    simp only [Option.bind_some, lines?]
    by_cases hfits : field.cardinality = .list ∧ ∀ value ∈ values, value.type = field.type
    · have hvalue : ∀ value ∈ values, OneLine value.text := fun value hvalue =>
        .scalarText fun name hname => hvalues name (by simpa [ScalarSlot.toList, ← hname])
      rw [if_pos hfits]
      simp only [List.map_cons, List.map_map, List.forall_mem_cons, List.forall_mem_map]
      exact ⟨Line.unbroken_list _ _,
        fun value hmem => Line.unbroken_field (.typeName _) (hvalue value hmem) _⟩
    · rw [if_neg hfits]
      exact hdefect

lemma ChildField.unbroken_items (field : ChildField) (node : Layer Node) (list : Node → Listing)
    (depth : Nat) (hkeys : ∀ key ∈ node.keysIn field.name, OneLine key)
    (hbelow : ∀ child ∈ node.childrenIn field.name, ∀ depth, ∀ item ∈ list child depth,
      item.Unbroken) :
    ∀ item ∈ field.items (node.mapChildren list) depth, item.Unbroken := by
  have hdefect : ∀ item ∈ [Item.defect (.fieldMismatch node.tag field.name field.shape)],
      item.Unbroken := by simp
  unfold items
  unfold Layer.keysIn at hkeys
  unfold Layer.childrenIn at hbelow
  rw [Layer.get?_mapChildren]
  rcases hslot : node.children.get? field.name with _ | child | children | entries
  · exact hdefect
  · rw [hslot] at hbelow
    simp only [Option.map_some, ChildSlot.mapChildren, Option.bind_some, items?]
    by_cases hfits : field.cardinality = .single
    · rw [if_pos hfits]
      cases child with
      | none =>
        have hnone : OneLine "None" := by decide
        simpa [Listing.optional] using Line.unbroken_heading hnone (depth + 1)
      | some child => exact hbelow child (by simp [ChildSlot.toList]) depth
    · rw [if_neg hfits]
      exact hdefect
  · rw [hslot] at hbelow
    simp only [Option.map_some, ChildSlot.mapChildren, Option.bind_some, items?]
    by_cases hfits : field.cardinality = .list
    · rw [if_pos hfits]
      simp only [Option.getD_some, List.forall_mem_cons, List.flatMap_map, List.forall_mem_flatMap]
      exact ⟨Line.unbroken_list _ _, fun child hmem => hbelow child hmem _⟩
    · rw [if_neg hfits]
      exact hdefect
  · rw [hslot] at hkeys hbelow
    simp only [Option.map_some, ChildSlot.mapChildren, Option.bind_some, items?]
    by_cases hfits : field.cardinality = .dict
    · rw [if_pos hfits]
      simp only [Option.getD_some, List.forall_mem_cons, Table.map, List.flatMap_map,
        List.forall_mem_flatMap]
      refine ⟨Line.unbroken_dict _ _, fun entry hmem => ⟨?_, ?_⟩⟩
      · exact Line.unbroken_key (hkeys _ (List.mem_map_of_mem hmem)) _
      · exact hbelow _ (List.mem_map_of_mem hmem) _
    · rw [if_neg hfits]
      exact hdefect

lemma Node.unbroken_fold {schema : Schema} (hschema : schema.OneLine) {node : Node}
    (h : node.Unbroken schema) (depth : Nat) :
    ∀ item ∈ Node.fold schema.itemsLayer node depth, item.Unbroken := by
  induction h generalizing depth with
  | mk layer hidentifiers hkeys hbelow ih =>
    rw [Node.fold_mk]
    unfold Schema.itemsLayer
    rw [Layer.tag_mapChildren]
    cases hregistered : schema.get? layer.tag with
    | none => simp
    | some descriptor =>
      have hnames := hschema descriptor (List.mem_of_find?_eq_some hregistered)
      simp only [Descriptor.items, List.forall_mem_cons, List.forall_mem_append,
        List.forall_mem_flatMap]
      refine ⟨Line.unbroken_heading (hnames _ (by simp)) _, fun field hfield => ?_,
        fun field hfield => ?_⟩
      · have hname : field.name ∈ descriptor.name :: descriptor.fieldNames := by
          simp only [Descriptor.fieldNames, List.mem_cons, List.mem_append, List.mem_map]
          exact .inr (.inl ⟨field, hfield, rfl⟩)
        exact field.unbroken_items _ _ (hnames _ hname) (hidentifiers _ hregistered field hfield)
      · exact field.unbroken_items layer _ _ (hkeys _ hregistered field hfield)
          (ih _ hregistered field hfield)

lemma Schema.unbroken_listing {schema : Schema} (hschema : schema.OneLine) {tree : Option Node}
    (h : ∀ node ∈ tree, node.Unbroken schema) (depth : Nat) :
    ∀ item ∈ schema.listing tree depth, item.Unbroken := by
  cases tree with
  | none =>
    have hnone : TreeDump.OneLine "None" := by decide
    simpa [listing, Listing.optional] using Line.unbroken_heading hnone (depth + 1)
  | some node => exact Node.unbroken_fold hschema (h node rfl) depth

end TreeDump
