import TreeDump.Node.Fields
import Mathlib.Tactic.Lemma

/-!
# Folding trees

Two ways of working off a tree agree if they agree on every layer: what `Node.fold` makes of a tree
can be carried along any map that one layer respects. Reading a field of a layer does not look into
the children, so it goes along with any change of them.
-/

namespace TreeDump

universe u v w

def ScalarSlot.toList : ScalarSlot → List Scalar
  | .single value => [value]
  | .list values => values

def ChildSlot.keys {ν : Type} : ChildSlot ν → List String
  | .dict entries => entries.keys
  | _ => []

namespace ChildSlot

variable {ν : Type u} {ρ : Type v} {τ : Type w}

lemma mapChildren_mapChildren (f : ν → ρ) (g : ρ → τ) (slot : ChildSlot ν) :
    (slot.mapChildren f).mapChildren g = slot.mapChildren (g ∘ f) := by
  cases slot with
  | single child => simp [mapChildren]
  | list items => simp [mapChildren]
  | dict entries => simp [mapChildren, Table.map]

lemma toList_mapChildren (f : ν → ρ) (slot : ChildSlot ν) :
    (slot.mapChildren f).toList = slot.toList.map f := by
  cases slot with
  | single child => cases child <;> rfl
  | list items => rfl
  | dict entries => simp [mapChildren, toList, Table.map]

lemma mapChildren_congr {f g : ν → ρ} {slot : ChildSlot ν}
    (h : ∀ child ∈ slot.toList, f child = g child) :
    slot.mapChildren f = slot.mapChildren g := by
  cases slot with
  | single child =>
    cases child with
    | none => rfl
    | some child => simp [mapChildren, h child (by simp [toList])]
  | list items => simpa [mapChildren, toList] using h
  | dict entries =>
    simp only [mapChildren, Table.map, dict.injEq, Table.mk.injEq, List.map_inj_left,
      Prod.mk.injEq, true_and]
    intro entry hentry
    exact h entry.2 (List.mem_map_of_mem hentry)

end ChildSlot

namespace Layer

variable {ν : Type u} {ρ : Type v} {τ : Type w}

lemma mapChildren_mapChildren (f : ν → ρ) (g : ρ → τ) (layer : Layer ν) :
    (layer.mapChildren f).mapChildren g = layer.mapChildren (g ∘ f) := by
  simp only [mapChildren, Table.map, List.map_map]
  congr 3
  funext entry
  simp [ChildSlot.mapChildren_mapChildren]

lemma mem_nodes_of_mem {layer : Layer ν} {entry : String × ChildSlot ν} {child : ν}
    (hentry : entry ∈ layer.children.entries) (h : child ∈ entry.2.toList) : child ∈ layer.nodes :=
  List.mem_flatMap.2 ⟨entry, hentry, h⟩

lemma nodes_mapChildren (f : ν → ρ) (layer : Layer ν) :
    (layer.mapChildren f).nodes = layer.nodes.map f := by
  simp only [nodes, mapChildren, Table.map, List.flatMap_map, List.map_flatMap,
    ChildSlot.toList_mapChildren]

lemma mapChildren_congr {f g : ν → ρ} {layer : Layer ν}
    (h : ∀ child ∈ layer.nodes, f child = g child) :
    layer.mapChildren f = layer.mapChildren g := by
  simp only [mapChildren, Table.map, mk.injEq, Table.mk.injEq, List.map_inj_left, Prod.mk.injEq,
    true_and]
  intro entry hentry
  exact ChildSlot.mapChildren_congr fun child hchild => h child (mem_nodes_of_mem hentry hchild)

end Layer

namespace Node

mutual

/-- A property holds of all trees if a tree has it whenever all its children do. -/
theorem induct {motive : Node → Prop}
    (step : ∀ layer : Layer Node, (∀ child ∈ layer.nodes, motive child) → motive (mk layer)) :
    ∀ node, motive node
  | mk ⟨_, _, ⟨fields⟩⟩ => step _ (inductFields step fields)
termination_by structural node => node

theorem inductFields {motive : Node → Prop}
    (step : ∀ layer : Layer Node, (∀ child ∈ layer.nodes, motive child) → motive (mk layer)) :
    ∀ fields : List (String × ChildSlot Node),
      ∀ child ∈ fields.flatMap (fun entry => entry.2.toList), motive child
  | [], child, h => by cases h
  | (_, slot) :: rest, child, h => by
    rw [List.flatMap_cons, List.mem_append] at h
    cases h with
    | inl h => exact inductSlot step slot child h
    | inr h => exact inductFields step rest child h
termination_by structural fields => fields

theorem inductSlot {motive : Node → Prop}
    (step : ∀ layer : Layer Node, (∀ child ∈ layer.nodes, motive child) → motive (mk layer)) :
    ∀ slot : ChildSlot Node, ∀ child ∈ slot.toList, motive child
  | .single none, child, h => by cases h
  | .single (some only), child, h => List.mem_singleton.1 h ▸ induct step only
  | .list items, child, h => inductItems step items child h
  | .dict ⟨entries⟩, child, h => inductEntries step entries child h
termination_by structural slot => slot

theorem inductItems {motive : Node → Prop}
    (step : ∀ layer : Layer Node, (∀ child ∈ layer.nodes, motive child) → motive (mk layer)) :
    ∀ items : List Node, ∀ child ∈ items, motive child
  | [], child, h => by cases h
  | item :: rest, child, h => by
    cases List.mem_cons.1 h with
    | inl h => exact h ▸ induct step item
    | inr h => exact inductItems step rest child h
termination_by structural items => items

theorem inductEntries {motive : Node → Prop}
    (step : ∀ layer : Layer Node, (∀ child ∈ layer.nodes, motive child) → motive (mk layer)) :
    ∀ entries : List (String × Node), ∀ child ∈ entries.map Prod.snd, motive child
  | [], child, h => by cases h
  | (_, item) :: rest, child, h => by
    cases List.mem_cons.1 h with
    | inl h => exact h ▸ induct step item
    | inr h => exact inductEntries step rest child h
termination_by structural entries => entries

end

/-- What a fold makes of a tree has a property that every layer has if its children have it. -/
theorem fold_induct {ρ : Type u} {f : Layer ρ → ρ} {motive : ρ → Prop}
    (step : ∀ layer : Layer ρ, (∀ child ∈ layer.nodes, motive child) → motive (f layer))
    (node : Node) : motive (fold f node) := by
  induction node using induct with
  | step layer ih =>
    rw [fold_mk]
    apply step
    rw [Layer.nodes_mapChildren, List.forall_mem_map]
    exact ih

/-- What one fold makes of a tree, carried along a map, is what another makes of it, if one layer
respects the map. -/
theorem fold_comp {ρ : Type u} {τ : Type v} {f : Layer ρ → ρ} {g : Layer τ → τ} (carry : ρ → τ)
    (h : ∀ layer, g (layer.mapChildren carry) = carry (f layer)) (node : Node) :
    fold g node = carry (fold f node) := by
  induction node using induct with
  | step layer ih =>
    rw [fold_mk, fold_mk, ← h, Layer.mapChildren_mapChildren]
    exact congrArg g (Layer.mapChildren_congr ih)

end Node

namespace Layer

variable {ν : Type u} {ρ : Type v} (f : ν → ρ) (layer : Layer ν) (field : String)

@[simp] lemma tag_mapChildren : (layer.mapChildren f).tag = layer.tag := rfl

@[simp] lemma scalars_mapChildren : (layer.mapChildren f).scalars = layer.scalars := rfl

lemma get?_mapChildren :
    (layer.mapChildren f).children.get? field =
      (layer.children.get? field).map (·.mapChildren f) := Table.get?_map ..

lemma require_map {α : Type u} {β : Type v} (expected : FieldShape) (g : α → β)
    (found : Option α) :
    (layer.mapChildren f).require field expected (found.map g) =
      (layer.require field expected found).map g := by
  cases found <;> rfl

@[simp] lemma readScalar_mapChildren (type : FieldType) :
    (layer.mapChildren f).readScalar field type = layer.readScalar field type := by
  unfold readScalar require
  rfl

@[simp] lemma readScalars_mapChildren (type : FieldType) :
    (layer.mapChildren f).readScalars field type = layer.readScalars field type := by
  unfold readScalars require
  rfl

@[simp] lemma readIdentifier_mapChildren :
    (layer.mapChildren f).readIdentifier field = layer.readIdentifier field := by
  unfold readIdentifier
  rw [readScalar_mapChildren]
  rfl

lemma readChild_mapChildren :
    (layer.mapChildren f).readChild field = (layer.readChild field).map (Option.map f) := by
  have hslot : ((layer.mapChildren f).children.get? field).bind ChildSlot.single? =
      ((layer.children.get? field).bind ChildSlot.single?).map (Option.map f) := by
    rw [get?_mapChildren]
    rcases layer.children.get? field with _ | ⟨_⟩ | ⟨_⟩ | ⟨_⟩ <;> rfl
  unfold readChild
  rw [hslot, require_map]

lemma readChildren_mapChildren :
    (layer.mapChildren f).readChildren field = (layer.readChildren field).map (List.map f) := by
  have hslot : ((layer.mapChildren f).children.get? field).bind ChildSlot.list? =
      ((layer.children.get? field).bind ChildSlot.list?).map (List.map f) := by
    rw [get?_mapChildren]
    rcases layer.children.get? field with _ | ⟨_⟩ | ⟨_⟩ | ⟨_⟩ <;> rfl
  unfold readChildren
  rw [hslot, require_map]

lemma readDict_mapChildren :
    (layer.mapChildren f).readDict field = (layer.readDict field).map (Table.map f) := by
  have hslot : ((layer.mapChildren f).children.get? field).bind ChildSlot.dict? =
      ((layer.children.get? field).bind ChildSlot.dict?).map (Table.map f) := by
    rw [get?_mapChildren]
    rcases layer.children.get? field with _ | ⟨_⟩ | ⟨_⟩ | ⟨_⟩ <;> rfl
  unfold readDict
  rw [hslot, require_map]

end Layer

end TreeDump
