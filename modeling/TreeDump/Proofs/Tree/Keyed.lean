import TreeDump.Proofs.Tree.Building
import TreeDump.Proofs.Tree.Folding
import Mathlib.Data.List.Nodup

/-!
# Trees with distinct keys

A table that is filled by insertions has each key once, so an entry is what is found under its key.
A tree is keyed if this holds of all its tables: those of the fields and those of the maps. Every
tree that is built is keyed.
-/

namespace TreeDump

namespace Table

variable {α : Type} {table : Table α} {key : String} {value : α}

lemma mem_of_get? (h : table.get? key = some value) : (key, value) ∈ table.entries := by
  obtain ⟨front, back, hentries, -⟩ := List.lookup_eq_some_iff.1 h
  simp [hentries]

lemma mem_keys_of_get? (h : table.get? key = some value) : key ∈ table.keys :=
  List.mem_map_of_mem (mem_of_get? h)

lemma get?_eq_none_iff : table.get? key = none ↔ key ∉ table.keys := by
  rw [get?, List.lookup_eq_none_iff, keys, List.mem_map, not_exists]
  refine forall_congr' fun entry => ?_
  rw [not_and, bne_iff_ne, ne_comm]

lemma get?_of_mem (h : table.keys.Nodup) (hmem : (key, value) ∈ table.entries) :
    table.get? key = some value := by
  obtain ⟨front, back, hentries⟩ := List.append_of_mem hmem
  have hfront : key ∉ front.map Prod.fst := by
    rw [keys, hentries, List.map_append, List.map_cons, List.nodup_middle] at h
    exact fun hmem => (List.nodup_cons.1 h).1 (List.mem_append_left _ hmem)
  refine List.lookup_eq_some_iff.2 ⟨front, back, hentries, fun entry hentry => ?_⟩
  have hne : key ≠ entry.1 := fun heq => hfront (heq ▸ List.mem_map_of_mem hentry)
  simpa using hne

lemma map_fst_put (key : String) (value : α) (entries : List (String × α)) :
    (put key value entries).map Prod.fst =
      if key ∈ entries.map Prod.fst then entries.map Prod.fst
      else entries.map Prod.fst ++ [key] := by
  induction entries with
  | nil => simp [put]
  | cons entry rest ih =>
    rw [put]
    by_cases hkey : entry.1 = key
    · simp [hkey]
    · rw [if_neg hkey, List.map_cons, ih, List.map_cons]
      have hiff : key ∈ entry.1 :: rest.map Prod.fst ↔ key ∈ rest.map Prod.fst := by
        simp [Ne.symm hkey]
      simp only [hiff]
      split <;> rfl

lemma nodup_keys_insert (h : table.keys.Nodup) (key : String) (value : α) :
    (table.insert key value).keys.Nodup := by
  unfold keys insert
  rw [map_fst_put]
  split
  · exact h
  · next hkey =>
    rw [← List.concat_eq_append]
    exact List.Nodup.concat hkey h

lemma nodup_keys_ofList (entries : List (String × α)) : (ofList entries).keys.Nodup := by
  induction entries using List.reverseRecOn with
  | nil => exact List.nodup_nil
  | append_singleton entries entry ih =>
    unfold ofList
    rw [List.foldl_append]
    exact nodup_keys_insert ih entry.1 entry.2

lemma mem_entries_insert {entry : String × α}
    (h : entry ∈ (table.insert key value).entries) :
    entry = (key, value) ∨ entry ∈ table.entries := by
  obtain ⟨entries⟩ := table
  change entry ∈ put key value entries at h
  induction entries with
  | nil => exact .inl (List.mem_singleton.1 h)
  | cons first rest ih =>
    rw [put] at h
    split at h
    · exact (List.mem_cons.1 h).imp_right (List.mem_cons_of_mem _)
    · obtain rfl | h := List.mem_cons.1 h
      · exact .inr (List.mem_cons_self ..)
      · exact (ih h).imp_right (List.mem_cons_of_mem _)

end Table

namespace Node

/-- A tree in which no field and no key of a map comes twice, as in every tree that is built. -/
inductive Keyed : Node → Prop where
  | mk (layer : Layer Node)
      (scalars : layer.scalars.keys.Nodup)
      (children : layer.children.keys.Nodup)
      (maps : ∀ entry ∈ layer.children.entries, entry.2.keys.Nodup)
      (below : ∀ child ∈ layer.nodes, Keyed child) :
      Keyed (.mk layer)

lemma Keyed.insertScalar {layer : Layer Node} (h : Keyed (.mk layer)) (name : String)
    (slot : ScalarSlot) : Keyed (.mk { layer with scalars := layer.scalars.insert name slot }) := by
  cases h with
  | mk _ hscalars hchildren hmaps hbelow =>
    exact ⟨_, Table.nodup_keys_insert hscalars name slot, hchildren, hmaps, hbelow⟩

lemma Keyed.insertChild {layer : Layer Node} (h : Keyed (.mk layer)) (name : String)
    {slot : ChildSlot Node} (hkeys : slot.keys.Nodup) (hslot : ∀ child ∈ slot.toList, Keyed child) :
    Keyed (.mk { layer with children := layer.children.insert name slot }) := by
  cases h with
  | mk _ hscalars hchildren hmaps hbelow =>
    refine ⟨_, hscalars, Table.nodup_keys_insert hchildren name slot, ?_, ?_⟩
    · intro entry hentry
      obtain rfl | hentry := Table.mem_entries_insert hentry
      · exact hkeys
      · exact hmaps entry hentry
    · intro child hchild
      obtain ⟨entry, hentry, hchild⟩ := List.mem_flatMap.1 hchild
      obtain rfl | hentry := Table.mem_entries_insert hentry
      · exact hslot child hchild
      · exact hbelow child (Layer.mem_nodes_of_mem hentry hchild)

/-- A tree that is built of keyed trees, with maps of distinct keys, is keyed. -/
theorem keyed_build {tag : String} {settings : List FieldSetting}
    (h : ∀ setting ∈ settings, ∀ slot ∈ setting.childSlot?,
      slot.keys.Nodup ∧ ∀ child ∈ slot.toList, Keyed child) :
    Keyed (build tag settings) := by
  induction settings using List.reverseRecOn with
  | nil => exact ⟨_, List.nodup_nil, List.nodup_nil, nofun, nofun⟩
  | append_singleton settings setting ih =>
    have hbefore := ih fun earlier hmem => h earlier (List.mem_append_left _ hmem)
    have hslot := h setting (List.mem_append_right _ (List.mem_singleton_self _))
    unfold build at hbefore ⊢
    rw [List.foldl_append]
    cases setting with
    | scalar name value => exact hbefore.insertScalar name _
    | scalars name values => exact hbefore.insertScalar name _
    | child name only => exact hbefore.insertChild name (hslot _ rfl).1 (hslot _ rfl).2
    | children name items => exact hbefore.insertChild name (hslot _ rfl).1 (hslot _ rfl).2
    | dict name entries => exact hbefore.insertChild name (hslot _ rfl).1 (hslot _ rfl).2

end Node

end TreeDump
