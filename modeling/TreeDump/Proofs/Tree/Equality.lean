import TreeDump.Node.Equality
import TreeDump.Proofs.Tree.Keyed
import TreeDump.Schema.Descriptor
import Mathlib.Data.List.Forall2
import Mathlib.Data.List.Perm.Subperm
import Mathlib.Logic.Relation

/-!
# The laws of node equality

Equality looks up the entries of one table in another, so it is stated from one side. With distinct
keys in tables of one size it does not matter from which: then no key of the other table is left
out. So equality of keyed trees is symmetric, that of all trees is transitive, and a keyed tree is
equal to itself exactly if no double in it is no number.
-/

namespace TreeDump

namespace Binary64

variable {x y z : Binary64}

/-- Doubles are equal if both are numbers and they are the same or zeros. -/
lemma equal_iff :
    x.equal y = true ↔
      x.isNaN = false ∧ y.isNaN = false ∧ (x = y ∨ x.isZero = true ∧ y.isZero = true) := by
  obtain ⟨bits⟩ := x
  obtain ⟨bits'⟩ := y
  simp [equal, and_assoc]

lemma equal_symm (h : x.equal y = true) : y.equal x = true := by
  rw [equal_iff] at h ⊢
  exact ⟨h.2.1, h.1, h.2.2.imp Eq.symm And.symm⟩

lemma equal_trans (h : x.equal y = true) (h' : y.equal z = true) : x.equal z = true := by
  rw [equal_iff] at h h' ⊢
  obtain ⟨hx, -, rfl | ⟨hxzero, hyzero⟩⟩ := h
  · exact h'
  · obtain ⟨-, hz, rfl | ⟨-, hzzero⟩⟩ := h'
    · exact ⟨hx, hz, .inr ⟨hxzero, hyzero⟩⟩
    · exact ⟨hx, hz, .inr ⟨hxzero, hzzero⟩⟩

lemma equal_self_iff : x.equal x = true ↔ x.isNaN = false := by simp [equal_iff]

lemma eq_of_equal (h : x.equal y = true) (hzero : x.isZero = false) : x = y := by
  obtain ⟨-, -, heq | ⟨hx, -⟩⟩ := equal_iff.1 h
  · exact heq
  · rw [hzero] at hx
    cases hx

end Binary64

namespace Scalar

variable {x y z : Scalar}

lemma equal_iff :
    x.equal y = true ↔
      (∃ a b, x = .double a ∧ y = .double b ∧ a.equal b = true) ∨
        (∀ a, x ≠ .double a) ∧ x = y := by
  cases x with
  | double a => cases y <;> simp [equal]
  | _ => simp [equal]

lemma equal_symm (h : x.equal y = true) : y.equal x = true := by
  obtain ⟨a, b, rfl, rfl, h⟩ | ⟨hx, rfl⟩ := equal_iff.1 h
  · exact Binary64.equal_symm h
  · exact equal_iff.2 (.inr ⟨hx, rfl⟩)

lemma equal_trans (h : x.equal y = true) (h' : y.equal z = true) : x.equal z = true := by
  obtain ⟨a, b, rfl, rfl, h⟩ | ⟨hx, rfl⟩ := equal_iff.1 h
  · obtain ⟨b', c, hb, rfl, h'⟩ | ⟨hy, -⟩ := equal_iff.1 h'
    · cases hb
      exact Binary64.equal_trans h h'
    · exact absurd rfl (hy b)
  · exact h'

lemma equal_self_iff : x.equal x = true ↔ ∀ a, x = .double a → a.isNaN = false := by
  cases x with
  | double a => simpa [equal] using Binary64.equal_self_iff
  | _ => simp [equal]

/-- Only zeros can be equal and not the same. -/
lemma eq_of_equal (h : x.equal y = true) (hzero : ∀ a, x = .double a → a.isZero = false) :
    x = y := by
  obtain ⟨a, b, rfl, rfl, h⟩ | ⟨-, rfl⟩ := equal_iff.1 h
  · rw [Binary64.eq_of_equal h (hzero a rfl)]
  · rfl

example : (Scalar.double ⟨0⟩).equal (.double ⟨0x8000000000000000⟩) = true := by decide

end Scalar

section Lists

variable {α β γ : Type} {R S : α → β → Prop} {xs : List α} {ys : List β} {zs : List γ}

lemma agreesInOrder_map_iff {test : α → β → Bool} :
    agreesInOrder (xs.map test) ys = true ↔
      List.Forall₂ (fun x y => test x y = true) xs ys := by
  induction xs generalizing ys with
  | nil => cases ys <;> simp [agreesInOrder]
  | cons x xs ih => cases ys <;> simp [agreesInOrder, ih]

lemma forall₂_mono (h : List.Forall₂ R xs ys) (himp : ∀ x ∈ xs, ∀ y, R x y → S x y) :
    List.Forall₂ S xs ys := by
  obtain ⟨hlength, hpairs⟩ := List.forall₂_iff_zip.1 h
  exact List.forall₂_iff_zip.2
    ⟨hlength, fun hmem => himp _ (List.of_mem_zip hmem).1 _ (hpairs hmem)⟩

lemma forall₂_comp {S : β → γ → Prop} (h : List.Forall₂ R xs ys) (h' : List.Forall₂ S ys zs) :
    List.Forall₂ (Relation.Comp R S) xs zs := by
  induction h generalizing zs with
  | nil =>
    cases h'
    exact .nil
  | cons hhead _ ih =>
    cases h' with
    | cons hhead' htail' => exact .cons ⟨_, hhead, hhead'⟩ (ih htail')

end Lists

/-! ### Tables -/

namespace Table

variable {α β γ : Type} {R S : α → β → Prop} {table : Table α} {other : Table β}

/-- Two tables have the same number of entries, and each entry of the first has in the second a
value under its key that is related to its own. -/
structure Matches (R : α → β → Prop) (table : Table α) (other : Table β) : Prop where
  size : table.size = other.size
  entries : ∀ entry ∈ table.entries, ∃ value, other.get? entry.1 = some value ∧ R entry.2 value

lemma agrees_map_iff {test : α → β → Bool} :
    (table.map test).agrees other = true ↔
      table.Matches (fun x y => test x y = true) other := by
  unfold agrees
  rw [size_map, Bool.and_eq_true, decide_eq_true_eq, List.all_eq_true, map, List.forall_mem_map]
  simp only [Option.any_eq_true]
  exact ⟨fun h => ⟨h.1, h.2⟩, fun h => ⟨h.size, h.entries⟩⟩

namespace Matches

lemma mono (h : table.Matches R other)
    (himp : ∀ entry ∈ table.entries, ∀ value, R entry.2 value → S entry.2 value) :
    table.Matches S other := by
  refine ⟨h.size, fun entry hentry => ?_⟩
  obtain ⟨value, hvalue, hrel⟩ := h.entries entry hentry
  exact ⟨value, hvalue, himp entry hentry value hrel⟩

/-- No key of the second table is left out. -/
lemma keys_perm (h : table.Matches R other) (hkeys : table.keys.Nodup) :
    table.keys.Perm other.keys := by
  have hsubset : table.keys ⊆ other.keys := by
    intro key hkey
    obtain ⟨entry, hentry, rfl⟩ := List.mem_map.1 hkey
    obtain ⟨value, hvalue, -⟩ := h.entries entry hentry
    exact mem_keys_of_get? hvalue
  have hlength : other.keys.length ≤ table.keys.length := by
    unfold keys
    rw [List.length_map, List.length_map]
    exact Nat.le_of_eq h.size.symm
  exact (hkeys.subperm hsubset).perm_of_length_le hlength

lemma nodup_keys (h : table.Matches R other) (hkeys : table.keys.Nodup) : other.keys.Nodup :=
  (h.keys_perm hkeys).nodup_iff.1 hkeys

lemma get? (h : table.Matches R other) (hkeys : table.keys.Nodup) (key : String) :
    Option.Rel R (table.get? key) (other.get? key) := by
  cases hfound : table.get? key with
  | none =>
    rw [get?_eq_none_iff, (h.keys_perm hkeys).mem_iff, ← get?_eq_none_iff] at hfound
    rw [hfound]
    exact .none
  | some found =>
    obtain ⟨value, hvalue, hrel⟩ := h.entries _ (mem_of_get? hfound)
    rw [hvalue]
    exact .some hrel

lemma map_get? {f : α → γ} {g : β → γ} (h : table.Matches (fun x y => f x = g y) other)
    (hkeys : table.keys.Nodup) (key : String) :
    (table.get? key).map f = (other.get? key).map g := by
  have hrel := h.get? hkeys key
  generalize table.get? key = found at hrel
  generalize other.get? key = found' at hrel
  cases hrel with
  | none => rfl
  | some hrel => exact congrArg some hrel

/-- It does not matter which of two tables is looked through, if one has distinct keys. -/
lemma symm (h : table.Matches R other) (hkeys : table.keys.Nodup) :
    other.Matches (fun y x => R x y) table := by
  refine ⟨h.size.symm, fun entry hentry => ?_⟩
  have hrel := h.get? hkeys entry.1
  rw [get?_of_mem (h.nodup_keys hkeys) hentry] at hrel
  generalize table.get? entry.1 = found at hrel
  cases hrel with
  | some hrel => exact ⟨_, rfl, hrel⟩

lemma comp {S : β → γ → Prop} {last : Table γ} (h : table.Matches R other)
    (h' : other.Matches S last) : table.Matches (Relation.Comp R S) last := by
  refine ⟨h.size.trans h'.size, fun entry hentry => ?_⟩
  obtain ⟨value, hvalue, hrel⟩ := h.entries entry hentry
  obtain ⟨value', hvalue', hrel'⟩ := h'.entries _ (mem_of_get? hvalue)
  exact ⟨value', hvalue', value, hrel, hrel'⟩

/-- If the keys also come in one order, the values are related one by one. -/
lemma forall₂ (h : table.Matches R other) (hkeys : table.keys.Nodup)
    (hsame : table.keys = other.keys) :
    List.Forall₂ R (table.entries.map Prod.snd) (other.entries.map Prod.snd) := by
  unfold keys at hsame
  rw [← List.forall₂_eq_eq_eq, List.forall₂_map_left_iff, List.forall₂_map_right_iff,
    List.forall₂_iff_zip] at hsame
  rw [List.forall₂_map_left_iff, List.forall₂_map_right_iff, List.forall₂_iff_zip]
  refine ⟨hsame.1, fun {entry found} hpair => ?_⟩
  obtain ⟨hentry, hfound⟩ := List.of_mem_zip hpair
  obtain ⟨value, hvalue, hrel⟩ := h.entries entry hentry
  rw [hsame.2 hpair, get?_of_mem (h.nodup_keys hkeys) hfound] at hvalue
  exact Option.some.inj hvalue ▸ hrel

end Matches

lemma matches_self_iff {R : α → α → Prop} (hkeys : table.keys.Nodup) :
    table.Matches R table ↔ ∀ entry ∈ table.entries, R entry.2 entry.2 := by
  constructor
  · intro h entry hentry
    obtain ⟨value, hvalue, hrel⟩ := h.entries entry hentry
    rw [get?_of_mem hkeys hentry] at hvalue
    exact Option.some.inj hvalue ▸ hrel
  · exact fun h => ⟨rfl, fun entry hentry => ⟨entry.2, get?_of_mem hkeys hentry, h entry hentry⟩⟩

end Table

namespace ScalarSlot

variable {slot other last : ScalarSlot}

def cardinality : ScalarSlot → ScalarCardinality
  | single _ => .single
  | list _ => .list

lemma equal_iff :
    slot.equal other = true ↔
      slot.cardinality = other.cardinality ∧
        List.Forall₂ (fun x y => Scalar.equal x y = true) slot.toList other.toList := by
  cases slot <;> cases other <;> simp [equal, cardinality, toList, agreesInOrder_map_iff]

lemma eq_of_toList (hcardinality : slot.cardinality = other.cardinality)
    (h : slot.toList = other.toList) : slot = other := by
  cases slot <;> cases other <;> simp_all [cardinality, toList]

lemma equal_symm (h : slot.equal other = true) : other.equal slot = true := by
  rw [equal_iff] at h ⊢
  exact ⟨h.1.symm, (h.2.imp fun _ _ => Scalar.equal_symm).flip⟩

lemma equal_trans (h : slot.equal other = true) (h' : other.equal last = true) :
    slot.equal last = true := by
  rw [equal_iff] at h h' ⊢
  refine ⟨h.1.trans h'.1, (forall₂_comp h.2 h'.2).imp ?_⟩
  rintro x z ⟨y, hxy, hyz⟩
  exact Scalar.equal_trans hxy hyz

lemma equal_self_iff :
    slot.equal slot = true ↔ ∀ a, Scalar.double a ∈ slot.toList → a.isNaN = false := by
  rw [equal_iff, List.forall₂_same]
  simp only [Scalar.equal_self_iff, true_and]
  exact ⟨fun h a hmem => h _ hmem a rfl, fun h x hx a ha => h a (ha ▸ hx)⟩

lemma eq_of_equal (h : slot.equal other = true)
    (hzero : ∀ a, Scalar.double a ∈ slot.toList → a.isZero = false) : slot = other := by
  obtain ⟨hcardinality, hvalues⟩ := equal_iff.1 h
  have hsame : List.Forall₂ (fun x y => x = y) slot.toList other.toList :=
    forall₂_mono hvalues fun x hx y hxy => Scalar.eq_of_equal hxy fun a ha => hzero a (ha ▸ hx)
  rw [List.forall₂_eq_eq_eq] at hsame
  exact eq_of_toList hcardinality hsame

end ScalarSlot

namespace ChildSlot

variable {α β γ : Type} {R S : α → β → Prop} {slot : ChildSlot α} {other : ChildSlot β}

/-- Two child fields have the same form, with related children in the same places. -/
@[mk_iff]
inductive Matches (R : α → β → Prop) : ChildSlot α → ChildSlot β → Prop where
  | single {x : Option α} {y : Option β} (h : Option.Rel R x y) : Matches R (.single x) (.single y)
  | list {xs : List α} {ys : List β} (h : List.Forall₂ R xs ys) : Matches R (.list xs) (.list ys)
  | dict {table : Table α} {other : Table β} (h : table.Matches R other) :
      Matches R (.dict table) (.dict other)

lemma agrees_mapChildren_iff {test : α → β → Bool} :
    (slot.mapChildren test).agrees other = true ↔
      slot.Matches (fun x y => test x y = true) other := by
  rw [matches_iff]
  rcases slot with (_ | x) | xs | table <;> rcases other with (_ | y) | ys | table' <;>
    simp [mapChildren, agrees, agreesInOrder_map_iff, Table.agrees_map_iff]

namespace Matches

lemma mono (h : slot.Matches R other) (himp : ∀ x ∈ slot.toList, ∀ y, R x y → S x y) :
    slot.Matches S other := by
  cases h with
  | single h =>
    cases h with
    | none => exact .single .none
    | some h => exact .single (.some (himp _ (List.mem_singleton_self _) _ h))
  | list h => exact .list (forall₂_mono h himp)
  | dict h => exact .dict (h.mono fun entry hentry => himp _ (List.mem_map_of_mem hentry))

lemma symm (h : slot.Matches R other) (hkeys : slot.keys.Nodup) :
    other.Matches (fun y x => R x y) slot := by
  cases h with
  | single h =>
    cases h with
    | none => exact .single .none
    | some h => exact .single (.some h)
  | list h => exact .list h.flip
  | dict h => exact .dict (h.symm hkeys)

lemma comp {S : β → γ → Prop} {last : ChildSlot γ} (h : slot.Matches R other)
    (h' : other.Matches S last) : slot.Matches (Relation.Comp R S) last := by
  cases h with
  | single h =>
    cases h' with
    | single h' =>
      cases h with
      | none =>
        cases h'
        exact .single .none
      | some h =>
        cases h' with
        | some h' => exact .single (.some ⟨_, h, h'⟩)
  | list h =>
    cases h' with
    | list h' => exact .list (forall₂_comp h h')
  | dict h =>
    cases h' with
    | dict h' => exact .dict (h.comp h')

/-- If the keys of maps come in one order, the children are related one by one. -/
lemma forall₂ (h : slot.Matches R other) (hkeys : slot.keys.Nodup)
    (hsame : slot.keys = other.keys) : List.Forall₂ R slot.toList other.toList := by
  cases h with
  | single h =>
    cases h with
    | none => exact .nil
    | some h => exact .cons h .nil
  | list h => exact h
  | dict h => exact h.forall₂ hkeys hsame

end Matches

lemma matches_self_iff {R : α → α → Prop} (hkeys : slot.keys.Nodup) :
    slot.Matches R slot ↔ ∀ x ∈ slot.toList, R x x := by
  rw [matches_iff]
  rcases slot with (_ | x) | xs | table
  · simp [toList]
  · simp [toList]
  · simp [toList, List.forall₂_same]
  · rw [toList, List.forall_mem_map, ← Table.matches_self_iff hkeys]
    simp

end ChildSlot

/-! ### Trees -/

namespace Node

variable {node other last : Node}

def valuesLayer (layer : Layer (List Scalar)) : List Scalar :=
  (layer.scalars.entries.flatMap fun entry => entry.2.toList) ++ layer.nodes.flatten

/-- All the scalars in a tree. -/
def values : Node → List Scalar := fold valuesLayer

lemma values_mk (layer : Layer Node) :
    values (mk layer) =
      (layer.scalars.entries.flatMap fun entry => entry.2.toList) ++
        layer.nodes.flatMap values := by
  unfold values
  rw [fold_mk, valuesLayer, Layer.nodes_mapChildren, Layer.scalars_mapChildren]
  rfl

@[simp] lemma layer_mk (layer : Layer Node) : (mk layer).layer = layer := rfl

/-- Equal trees have one tag and tables that match: that of the scalars, and that of the children
where matching children are equal again. -/
lemma equal_mk_iff {layer : Layer Node} :
    equal (mk layer) other = true ↔
      layer.tag = other.layer.tag ∧
        layer.scalars.Matches (fun slot found => slot.equal found = true) other.layer.scalars ∧
        layer.children.Matches (ChildSlot.Matches fun x y => equal x y = true)
          other.layer.children := by
  have hchildren : ((layer.mapChildren equal).children.map ChildSlot.agrees) =
      layer.children.map fun slot => (slot.mapChildren equal).agrees := by
    simp [Layer.mapChildren, Table.map]
  unfold equal at hchildren ⊢
  rw [fold_mk, Layer.agrees, hchildren, Layer.tag_mapChildren, Layer.scalars_mapChildren,
    Bool.and_eq_true, Bool.and_eq_true, decide_eq_true_eq, Table.agrees_map_iff,
    Table.agrees_map_iff, and_assoc]
  simp only [ChildSlot.agrees_mapChildren_iff]

lemma equal_symm (hkeyed : node.Keyed) (h : node.equal other = true) : other.equal node = true := by
  induction hkeyed generalizing other with
  | mk layer hscalars hchildren hmaps _ ih =>
    obtain ⟨htag, hvalues, hbelow⟩ := equal_mk_iff.1 h
    cases other with
    | mk other =>
      refine equal_mk_iff.2 ⟨htag.symm, ?_, ?_⟩
      · exact (hvalues.mono fun _ _ _ => ScalarSlot.equal_symm).symm hscalars
      · refine (hbelow.mono fun entry hentry found hslot => ?_).symm hchildren
        refine (hslot.mono fun x hx y hxy => ?_).symm (hmaps entry hentry)
        exact ih x (Layer.mem_nodes_of_mem hentry hx) hxy

lemma equal_trans (h : node.equal other = true) (h' : other.equal last = true) :
    node.equal last = true := by
  induction node using induct generalizing other last with
  | step layer ih =>
    cases other with
    | mk other =>
      obtain ⟨htag, hvalues, hbelow⟩ := equal_mk_iff.1 h
      obtain ⟨htag', hvalues', hbelow'⟩ := equal_mk_iff.1 h'
      refine equal_mk_iff.2 ⟨htag.trans htag', ?_, ?_⟩
      · refine (hvalues.comp hvalues').mono ?_
        rintro entry - found ⟨middle, hmiddle, hfound⟩
        exact ScalarSlot.equal_trans hmiddle hfound
      · refine (hbelow.comp hbelow').mono ?_
        rintro entry hentry found ⟨middle, hmiddle, hfound⟩
        refine (hmiddle.comp hfound).mono ?_
        rintro x hx z ⟨y, hxy, hyz⟩
        exact ih x (Layer.mem_nodes_of_mem hentry hx) hxy hyz

/-- A keyed tree is equal to itself if all doubles in it are numbers, and only then. -/
lemma equal_self_iff (hkeyed : node.Keyed) :
    node.equal node = true ↔ ∀ a, Scalar.double a ∈ node.values → a.isNaN = false := by
  induction hkeyed with
  | mk layer hscalars hchildren hmaps _ ih =>
    have hvalues : layer.scalars.Matches (fun slot found => slot.equal found = true)
        layer.scalars ↔ ∀ entry ∈ layer.scalars.entries,
          ∀ a, Scalar.double a ∈ entry.2.toList → a.isNaN = false := by
      simp only [Table.matches_self_iff hscalars, ScalarSlot.equal_self_iff]
    have hbelow : layer.children.Matches (ChildSlot.Matches fun x y => equal x y = true)
        layer.children ↔ ∀ child ∈ layer.nodes,
          ∀ a, Scalar.double a ∈ child.values → a.isNaN = false := by
      rw [Table.matches_self_iff hchildren, Layer.nodes, List.forall_mem_flatMap]
      refine forall₂_congr fun entry hentry => ?_
      rw [ChildSlot.matches_self_iff (hmaps entry hentry)]
      exact forall₂_congr fun x hx => ih x (Layer.mem_nodes_of_mem hentry hx)
    rw [equal_mk_iff, layer_mk, hvalues, hbelow, values_mk]
    simp only [List.mem_append, List.mem_flatMap]
    constructor
    · rintro ⟨-, hown, hchild⟩ a (⟨entry, hentry, hmem⟩ | ⟨child, hmem, ha⟩)
      · exact hown entry hentry a hmem
      · exact hchild child hmem a ha
    · intro h
      exact ⟨trivial, fun entry hentry a hmem => h a (.inl ⟨entry, hentry, hmem⟩),
        fun child hmem a ha => h a (.inr ⟨child, hmem, ha⟩)⟩

end Node

end TreeDump
