import TreeDump.Proofs.Dump.Listing
import TreeDump.Proofs.Number.ShortestText
import Mathlib.Data.List.Basic

/-!
# Declared parts of trees

The declared part of a tree has its tag and its declared fields, in the order of the schema, and so
for the trees below. What is no number is one value there. A dump shows nothing else of a tree: a
tree and its declared part have the same listing, whether or not they conform.
-/

namespace TreeDump

namespace Binary64

lemma text_normal (x : Binary64) : x.normal.text = x.text := by
  unfold normal
  cases hx : x.isNaN with
  | false => rfl
  | true =>
    have hnan : nan.isNaN = true := by decide
    rw [if_pos rfl, text_of_isNaN hx, text_of_isNaN hnan]

end Binary64

namespace Scalar

/-- The value, or one for all doubles that are no numbers. -/
def normal : Scalar → Scalar
  | double value => .double value.normal
  | value => value

@[simp] lemma type_normal (value : Scalar) : value.normal.type = value.type := by
  cases value <;> rfl

@[simp] lemma text_normal (value : Scalar) : value.normal.text = value.text := by
  cases value with
  | double value => exact value.text_normal
  | _ => rfl

@[simp] lemma normal_normal (value : Scalar) : value.normal.normal = value.normal := by
  cases value with
  | double value => exact congrArg double (Binary64.normal_eq_of_text value.text_normal)
  | _ => rfl

end Scalar

/-- The slot with its values taken as those that they are printed as. -/
def ScalarSlot.normal : ScalarSlot → ScalarSlot
  | .single value => .single value.normal
  | .list values => .list (values.map Scalar.normal)

@[simp] lemma ScalarSlot.normal_normal (slot : ScalarSlot) : slot.normal.normal = slot.normal := by
  cases slot <;> simp [normal]

/-- The fields of the given names that a table has, in the order of the names. -/
def Table.select {α : Type} (names : List String) (table : Table α) : Table α :=
  ⟨names.filterMap fun name => (table.get? name).map fun value => (name, value)⟩

lemma Table.get?_select {α : Type} (names : List String) (table : Table α) (name : String) :
    (table.select names).get? name = if name ∈ names then table.get? name else none := by
  change List.lookup name (names.filterMap _) = _
  induction names with
  | nil => rfl
  | cons first names ih =>
    cases hfirst : table.get? first with
    | none =>
      rw [List.filterMap_cons_none (by rw [hfirst]; rfl), ih]
      by_cases hname : name = first <;> simp [hname, hfirst]
    | some value =>
      rw [List.filterMap_cons_some (b := (first, value)) (by rw [hfirst]; rfl), lookup_cons, ih]
      by_cases hname : name = first <;> simp [hname, hfirst]

lemma Table.select_congr {α : Type} {names : List String} {table table' : Table α}
    (h : ∀ name ∈ names, table.get? name = table'.get? name) :
    table.select names = table'.select names := by
  unfold select
  congr 1
  exact List.filterMap_congr fun name hname => by rw [h name hname]

namespace Schema

def declaredLayer (schema : Schema) (node : Layer Node) : Node :=
  match schema.get? node.tag with
  | some descriptor => .mk {
      tag := node.tag
      scalars := (node.scalars.map ScalarSlot.normal).select
        (descriptor.scalars.map ScalarField.name)
      children := node.children.select (descriptor.children.map ChildField.name) }
  | none => .mk ⟨node.tag, .empty, .empty⟩

/-- The declared part of a tree. -/
def declared (schema : Schema) : Node → Node := Node.fold schema.declaredLayer

end Schema

lemma ScalarField.lines?_normal (field : ScalarField) (depth : Nat) (slot : ScalarSlot) :
    field.lines? depth slot.normal = field.lines? depth slot := by
  cases slot with
  | single value => simp [ScalarSlot.normal, lines?]
  | list values => simp [ScalarSlot.normal, lines?, Function.comp_def]

lemma ScalarField.items_congr (field : ScalarField) {ν ρ : Type} {node : Layer ν} {other : Layer ρ}
    (htag : node.tag = other.tag)
    (hslot : (node.scalars.get? field.name).map ScalarSlot.normal =
      (other.scalars.get? field.name).map ScalarSlot.normal) (depth : Nat) :
    field.items node depth = field.items other depth := by
  have hlines : ∀ slot : Option ScalarSlot,
      slot.bind (field.lines? depth) = (slot.map ScalarSlot.normal).bind (field.lines? depth) := by
    intro slot
    cases slot with
    | none => rfl
    | some slot => exact (field.lines?_normal depth slot).symm
  unfold items
  rw [hlines, hslot, ← hlines, htag]

lemma ChildField.items_congr (field : ChildField) {node other : Layer Listing}
    (htag : node.tag = other.tag)
    (hslot : node.children.get? field.name = other.children.get? field.name) (depth : Nat) :
    field.items node depth = field.items other depth := by
  unfold items
  rw [hslot, htag]

namespace Schema

lemma itemsLayer_congr (schema : Schema) {node other : Layer Listing} (htag : node.tag = other.tag)
    (hscalars : ∀ descriptor ∈ schema.get? node.tag, ∀ field ∈ descriptor.scalars,
      (node.scalars.get? field.name).map ScalarSlot.normal =
        (other.scalars.get? field.name).map ScalarSlot.normal)
    (hchildren : ∀ descriptor ∈ schema.get? node.tag, ∀ field ∈ descriptor.children,
      node.children.get? field.name = other.children.get? field.name) :
    schema.itemsLayer node = schema.itemsLayer other := by
  funext depth
  unfold itemsLayer
  rw [← htag]
  cases hdescriptor : schema.get? node.tag with
  | none => rfl
  | some descriptor =>
    have hitems : ∀ field ∈ descriptor.scalars,
        field.items node (depth + 1) = field.items other (depth + 1) :=
      fun field hfield => field.items_congr htag (hscalars descriptor hdescriptor field hfield) _
    have hbelow : ∀ field ∈ descriptor.children,
        field.items node (depth + 1) = field.items other (depth + 1) :=
      fun field hfield => field.items_congr htag (hchildren descriptor hdescriptor field hfield) _
    simp only [Descriptor.items]
    rw [List.flatMap_congr hitems, List.flatMap_congr hbelow]

lemma declared_mk (schema : Schema) (layer : Layer Node) :
    schema.declared (.mk layer) = schema.declaredLayer (layer.mapChildren schema.declared) :=
  Node.fold_mk ..

lemma fold_declared (schema : Schema) (node : Node) :
    Node.fold schema.itemsLayer (schema.declared node) = Node.fold schema.itemsLayer node := by
  induction node using Node.induct with
  | step layer ih =>
    have hbelow : (layer.mapChildren schema.declared).mapChildren (Node.fold schema.itemsLayer) =
        layer.mapChildren (Node.fold schema.itemsLayer) := by
      rw [Layer.mapChildren_mapChildren]
      exact Layer.mapChildren_congr ih
    rw [declared_mk, Node.fold_mk, ← hbelow]
    unfold declaredLayer
    rw [Layer.tag_mapChildren]
    cases hdescriptor : schema.get? layer.tag with
    | none =>
      have hnone : ∀ node : Layer Listing, node.tag = layer.tag →
          schema.itemsLayer node = fun _ => [.defect (.dispatchMismatch layer.tag)] := by
        intro node htag
        unfold itemsLayer
        rw [htag, hdescriptor]
      rw [Node.fold_mk, hnone _ rfl, hnone _ rfl]
    | some descriptor =>
      rw [Node.fold_mk]
      refine schema.itemsLayer_congr (by rfl) ?_ ?_
      · intro found hfound field hfield
        obtain rfl : descriptor = found := Option.some.inj (hdescriptor.symm.trans hfound)
        have hname : field.name ∈ descriptor.scalars.map ScalarField.name :=
          List.mem_map_of_mem hfield
        simp only [Layer.scalars_mapChildren, Table.get?_map, Table.get?_select, if_pos hname,
          Option.map_map, Function.comp_def, ScalarSlot.normal_normal]
      · intro found hfound field hfield
        obtain rfl : descriptor = found := Option.some.inj (hdescriptor.symm.trans hfound)
        have hname : field.name ∈ descriptor.children.map ChildField.name :=
          List.mem_map_of_mem hfield
        simp only [Layer.get?_mapChildren, Table.get?_select, if_pos hname]

/-- A dump shows the declared part of a tree and nothing else. -/
theorem listing_declared (schema : Schema) (node : Option Node) :
    schema.listing (node.map schema.declared) = schema.listing node := by
  unfold listing
  rw [Option.map_map]
  exact congrArg Listing.optional (congrArg (Option.map · node) (funext schema.fold_declared))

end Schema

end TreeDump
