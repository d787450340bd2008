import TreeDump.Node.Build
import Mathlib.Data.List.Induction

/-!
# What building leaves

A setting is for a field, which is a name in one of the two name spaces. Of all settings for a field
a built node has the last one, whatever the settings for other fields and the earlier ones were.
-/

namespace TreeDump

/-- A field of a node: a name in one of the two name spaces. -/
inductive FieldKey where
  | scalar (name : String)
  | child (name : String)
deriving DecidableEq

namespace FieldSetting

/-- The field that a setting gives a value to. -/
def key : FieldSetting → FieldKey
  | scalar name _ | scalars name _ => .scalar name
  | child name _ | children name _ | dict name _ => .child name

def scalarSlot? : FieldSetting → Option ScalarSlot
  | scalar _ value => some (.single value)
  | scalars _ values => some (.list values)
  | _ => none

def childSlot? : FieldSetting → Option (ChildSlot Node)
  | child _ only => some (.single only)
  | children _ items => some (.list items)
  | dict _ entries => some (.dict entries)
  | _ => none

/-- The settings for a field, in order. -/
def ofKey (key : FieldKey) (settings : List FieldSetting) : List FieldSetting :=
  settings.filter fun setting => setting.key = key

/-- The last setting for a field. -/
def last? (key : FieldKey) (settings : List FieldSetting) : Option FieldSetting :=
  (ofKey key settings).getLast?

/-- What the last setting for a child field gives it. -/
def lastSlot? (name : String) (settings : List FieldSetting) : Option (ChildSlot Node) :=
  (last? (.child name) settings).bind childSlot?

variable {key : FieldKey}

lemma ofKey_append (front back : List FieldSetting) :
    ofKey key (front ++ back) = ofKey key front ++ ofKey key back := List.filter_append ..

lemma ofKey_cons_of_ne {setting : FieldSetting} (h : setting.key ≠ key)
    (settings : List FieldSetting) : ofKey key (setting :: settings) = ofKey key settings :=
  List.filter_cons_of_neg (by simpa using h)

lemma last?_concat (settings : List FieldSetting) (setting : FieldSetting) :
    last? key (settings ++ [setting]) =
      if setting.key = key then some setting else last? key settings := by
  unfold last?
  rw [ofKey_append]
  split
  · next h =>
    have hone : ofKey key [setting] = [setting] := by simp [ofKey, h]
    rw [hone, List.getLast?_concat]
  · next h =>
    have hnone : ofKey key [setting] = [] := ofKey_cons_of_ne h []
    rw [hnone, List.append_nil]

/-- If there is a later setting for a field, the earlier ones do not count. -/
lemma last?_append_of_mem {later : FieldSetting} {back : List FieldSetting} (hmem : later ∈ back)
    (hkey : later.key = key) (front : List FieldSetting) :
    last? key (front ++ back) = last? key back := by
  have hback : ofKey key back ≠ [] :=
    List.ne_nil_of_mem (List.mem_filter.2 ⟨hmem, by simpa using hkey⟩)
  unfold last?
  rw [ofKey_append, List.getLast?_append, List.getLast?_eq_some_getLast hback, Option.some_or]

end FieldSetting

open FieldSetting

lemma Layer.get?_scalars_set (layer : Layer Node) (setting : FieldSetting) (name : String) :
    (layer.set setting).scalars.get? name =
      if setting.key = .scalar name then setting.scalarSlot? else layer.scalars.get? name := by
  cases setting <;> simp [set, key, scalarSlot?, Table.get?_insert, eq_comm]

lemma Layer.get?_children_set (layer : Layer Node) (setting : FieldSetting) (name : String) :
    (layer.set setting).children.get? name =
      if setting.key = .child name then setting.childSlot? else layer.children.get? name := by
  cases setting <;> simp [set, key, childSlot?, Table.get?_insert, eq_comm]

lemma Layer.tag_set (layer : Layer Node) (setting : FieldSetting) :
    (layer.set setting).tag = layer.tag := by
  cases setting <;> rfl

namespace Node

variable (tag : String) (settings : List FieldSetting) (name : String)

lemma layer_build_concat (setting : FieldSetting) :
    (build tag (settings ++ [setting])).layer = (build tag settings).layer.set setting := by
  simp [build, layer]

lemma tag_build : (build tag settings).layer.tag = tag := by
  induction settings using List.reverseRecOn with
  | nil => rfl
  | append_singleton settings setting ih => rw [layer_build_concat, Layer.tag_set, ih]

lemma get?_scalars_build :
    (build tag settings).layer.scalars.get? name =
      (last? (.scalar name) settings).bind scalarSlot? := by
  induction settings using List.reverseRecOn with
  | nil => rfl
  | append_singleton settings setting ih =>
    rw [layer_build_concat, Layer.get?_scalars_set, last?_concat, ih]
    split <;> rfl

lemma get?_children_build :
    (build tag settings).layer.children.get? name = lastSlot? name settings := by
  unfold lastSlot?
  induction settings using List.reverseRecOn with
  | nil => rfl
  | append_singleton settings setting ih =>
    rw [layer_build_concat, Layer.get?_children_set, last?_concat, ih]
    split <;> rfl

end Node

end TreeDump
