import TreeDump.Node.Fields
import Mathlib.Data.List.Forall2

/-!
# What readers find

A reader gives what a field holds exactly if the field has the shape that was asked for, and the
values then have the type that was asked for. What it complains about is always the same: the tag,
the field and the shape.
-/

namespace TreeDump

universe u v

lemma Scalar.text_eq_canonical (value : Scalar) : value.text = value.canonical := by
  cases value <;> rfl

namespace ScalarSlot

lemma single?_eq_some_iff {type : FieldType} {slot : ScalarSlot} {value : Scalar} :
    slot.single? type = some value ↔ slot = .single value ∧ value.type = type := by
  cases slot with
  | single held =>
    unfold single?
    split <;> grind
  | list held => simp [single?]

lemma list?_eq_some_iff {type : FieldType} {slot : ScalarSlot} {values : List Scalar} :
    slot.list? type = some values ↔ slot = .list values ∧ ∀ value ∈ values, value.type = type := by
  cases slot with
  | single held => simp [list?]
  | list held =>
    unfold list?
    split <;> grind

end ScalarSlot

namespace ChildSlot

variable {ν : Type u}

lemma single?_eq_some_iff {slot : ChildSlot ν} {child : Option ν} :
    slot.single? = some child ↔ slot = .single child := by
  cases slot <;> simp [single?]

lemma list?_eq_some_iff {slot : ChildSlot ν} {items : List ν} :
    slot.list? = some items ↔ slot = .list items := by
  cases slot <;> simp [list?]

lemma dict?_eq_some_iff {slot : ChildSlot ν} {entries : Table ν} :
    slot.dict? = some entries ↔ slot = .dict entries := by
  cases slot <;> simp [dict?]

end ChildSlot

namespace Layer

variable {ν : Type u} {layer : Layer ν} {field : String}

lemma require_eq_ok_iff {α : Type v} {expected : FieldShape} {found : Option α} {value : α} :
    layer.require field expected found = .ok value ↔ found = some value := by
  cases found <;> simp [require]

lemma readScalar_eq_ok_iff {type : FieldType} {value : Scalar} :
    layer.readScalar field type = .ok value ↔
      layer.scalars.get? field = some (.single value) ∧ value.type = type := by
  simp only [readScalar, require_eq_ok_iff, Option.bind_eq_some_iff, ScalarSlot.single?_eq_some_iff]
  constructor
  · intro ⟨slot, hslot, hheld, htype⟩
    exact ⟨hheld ▸ hslot, htype⟩
  · intro ⟨hslot, htype⟩
    exact ⟨_, hslot, rfl, htype⟩

lemma readScalars_eq_ok_iff {type : FieldType} {values : List Scalar} :
    layer.readScalars field type = .ok values ↔
      layer.scalars.get? field = some (.list values) ∧ ∀ value ∈ values, value.type = type := by
  simp only [readScalars, require_eq_ok_iff, Option.bind_eq_some_iff, ScalarSlot.list?_eq_some_iff]
  constructor
  · intro ⟨slot, hslot, hheld, htype⟩
    exact ⟨hheld ▸ hslot, htype⟩
  · intro ⟨hslot, htype⟩
    exact ⟨_, hslot, rfl, htype⟩

lemma readChild_eq_ok_iff {child : Option ν} :
    layer.readChild field = .ok child ↔ layer.children.get? field = some (.single child) := by
  simp [readChild, require_eq_ok_iff, Option.bind_eq_some_iff,
    ChildSlot.single?_eq_some_iff]

lemma readChildren_eq_ok_iff {items : List ν} :
    layer.readChildren field = .ok items ↔ layer.children.get? field = some (.list items) := by
  simp [readChildren, require_eq_ok_iff, Option.bind_eq_some_iff,
    ChildSlot.list?_eq_some_iff]

lemma readDict_eq_ok_iff {entries : Table ν} :
    layer.readDict field = .ok entries ↔ layer.children.get? field = some (.dict entries) := by
  simp [readDict, require_eq_ok_iff, Option.bind_eq_some_iff,
    ChildSlot.dict?_eq_some_iff]

lemma readIdentifier_eq (layer : Layer ν) (field : String) :
    layer.readIdentifier field = (layer.readScalar field .identifier).map Scalar.text := by
  unfold readIdentifier
  cases hread : layer.readScalar field .identifier with
  | error error => rfl
  | ok value =>
    obtain ⟨-, htype⟩ := readScalar_eq_ok_iff.1 hread
    cases value with
    | identifier name => rfl
    | _ => cases htype

end Layer

namespace Layer

variable {ν : Type u} {layer : Layer ν} {field : String} {error : DumpError}

/-- A node has a field of a shape. -/
def HasShape (layer : Layer ν) (field : String) : FieldShape → Prop
  | .scalar type =>
    ∃ value, layer.scalars.get? field = some (.single value) ∧ value.type = type
  | .scalars type =>
    ∃ values, layer.scalars.get? field = some (.list values) ∧ ∀ value ∈ values, value.type = type
  | .child => ∃ child, layer.children.get? field = some (.single child)
  | .children => ∃ items, layer.children.get? field = some (.list items)
  | .dict => ∃ entries, layer.children.get? field = some (.dict entries)

/-- A reader fails exactly if it finds no value, and then for the shape of its field. -/
lemma require_eq_error_iff {α : Type v} {expected : FieldShape} {found : Option α} {P : α → Prop}
    (h : ∀ value, layer.require field expected found = .ok value ↔ P value) :
    layer.require field expected found = .error error ↔
      (¬ ∃ value, P value) ∧ error = .fieldMismatch layer.tag field expected := by
  simp only [← h, require_eq_ok_iff]
  cases found <;> simp [require, eq_comm]

lemma readChild_eq_error_iff :
    layer.readChild field = .error error ↔
      ¬ layer.HasShape field .child ∧ error = .fieldMismatch layer.tag field .child :=
  require_eq_error_iff fun _ => readChild_eq_ok_iff

lemma readScalar_eq_error_iff {type : FieldType} :
    layer.readScalar field type = .error error ↔
      ¬ layer.HasShape field (.scalar type) ∧
        error = .fieldMismatch layer.tag field (.scalar type) :=
  require_eq_error_iff fun _ => readScalar_eq_ok_iff

lemma readScalars_eq_error_iff {type : FieldType} :
    layer.readScalars field type = .error error ↔
      ¬ layer.HasShape field (.scalars type) ∧
        error = .fieldMismatch layer.tag field (.scalars type) :=
  require_eq_error_iff fun _ => readScalars_eq_ok_iff

end Layer

section Sequence

variable {ε α β : Type}

lemma bind_eq_ok_iff {first : Except ε α} {next : α → Except ε β} {value : β} :
    (first >>= next) = .ok value ↔ ∃ found, first = .ok found ∧ next found = .ok value := by
  cases first <;> simp [bind, Except.bind]

lemma bind_eq_error_iff {first : Except ε α} {next : α → Except ε β} {error : ε} :
    (first >>= next) = .error error ↔
      first = .error error ∨ ∃ found, first = .ok found ∧ next found = .error error := by
  cases first <;> simp [bind, Except.bind]

lemma mapM_eq_ok_iff {read : α → Except ε β} {elements : List α} {values : List β} :
    elements.mapM read = .ok values ↔
      List.Forall₂ (fun element value => read element = .ok value) elements values := by
  induction elements generalizing values with
  | nil => cases values <;> simp [pure, Except.pure]
  | cons element elements ih =>
    rw [List.mapM_cons, bind_eq_ok_iff]
    cases values with
    | nil => simp [bind_eq_ok_iff, pure, Except.pure]
    | cons value values => simp [bind_eq_ok_iff, ih, pure, Except.pure]

/-- Reading in sequence fails for the first element that cannot be read. -/
lemma mapM_eq_error_iff {read : α → Except ε β} {elements : List α} {error : ε} :
    elements.mapM read = .error error ↔
      ∃ front element back, elements = front ++ element :: back ∧
        (∀ earlier ∈ front, ∃ value, read earlier = .ok value) ∧ read element = .error error := by
  induction elements with
  | nil => simp [pure, Except.pure]
  | cons element elements ih =>
    rw [List.mapM_cons, bind_eq_error_iff]
    constructor
    · rintro (h | ⟨value, hvalue, hrest⟩)
      · exact ⟨[], element, elements, rfl, by simp, h⟩
      · obtain hrest | ⟨values, -, hpure⟩ := bind_eq_error_iff.1 hrest
        · obtain ⟨front, found, back, rfl, hfront, hfound⟩ := ih.1 hrest
          exact ⟨element :: front, found, back, rfl,
            List.forall_mem_cons.2 ⟨⟨value, hvalue⟩, hfront⟩, hfound⟩
        · cases hpure
    · rintro ⟨front, found, back, heq, hfront, hfound⟩
      cases front with
      | nil =>
        obtain ⟨rfl, -⟩ := List.cons.inj heq
        exact .inl hfound
      | cons first front =>
        obtain ⟨rfl, rfl⟩ := List.cons.inj heq
        obtain ⟨⟨value, hvalue⟩, hfront⟩ := List.forall_mem_cons.1 hfront
        exact .inr ⟨value, hvalue,
          bind_eq_error_iff.2 (.inl (ih.2 ⟨front, found, back, rfl, hfront, hfound⟩))⟩

lemma map_eq_map_of_forall₂ {f : α → ε} {g : β → ε} {elements : List α} {values : List β}
    (h : List.Forall₂ (fun element value => g value = f element) elements values) :
    values.map g = elements.map f := by
  rw [← List.forall₂_eq_eq_eq, List.forall₂_map_left_iff, List.forall₂_map_right_iff]
  exact h.flip

lemma exists_of_mapM_eq_error {read : α → Except ε β} {elements : List α} {error : ε}
    (h : elements.mapM read = .error error) :
    ∃ element ∈ elements, read element = .error error := by
  obtain ⟨front, element, back, rfl, -, hread⟩ := mapM_eq_error_iff.1 h
  exact ⟨element, by simp, hread⟩

end Sequence

end TreeDump
