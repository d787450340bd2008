import TreeDump.Proofs.Dump.LastSettings
import TreeDump.Proofs.Tree.Equality

/-!
# Dumps of equal trees

Equality of trees takes the two zeros for one and does not see in which order a map has its keys. A
dump shows both. It shows no more than that: equal trees that hold no zero, and have the keys of
their maps in the same order, are printed the same.
-/

namespace TreeDump

namespace ChildSlot

variable {ν : Type} {R : ν → ν → Prop} {slot other : ChildSlot ν}

lemma Matches.outline_eq (h : slot.Matches R other) (hkeys : slot.keys = other.keys) :
    slot.outline = other.outline := by
  cases h with
  | single h => cases h <;> rfl
  | list h => simpa [outline, mapChildren, List.map_const'] using h.length_eq
  | @dict table other h =>
    have hunits : ∀ table : Table ν,
        outline (.dict table) = .dict ⟨table.keys.map fun key => (key, ())⟩ := by
      simp [outline, mapChildren, Table.map, Table.keys]
    rw [hunits, hunits]
    exact congrArg (fun keys : List String => ChildSlot.dict ⟨keys.map fun key => (key, ())⟩) hkeys

end ChildSlot

namespace Node

/-- Maps in the same place have their keys in the same order, and so in the trees below. -/
inductive SameOrder : Node → Node → Prop where
  | mk (layer other : Layer Node)
      (keys : ∀ name, ∀ slot ∈ layer.children.get? name, ∀ found ∈ other.children.get? name,
        slot.keys = found.keys)
      (below : ∀ name, ∀ slot ∈ layer.children.get? name, ∀ found ∈ other.children.get? name,
        ∀ pair ∈ slot.toList.zip found.toList, SameOrder pair.1 pair.2) :
      SameOrder (.mk layer) (.mk other)

lemma sameOrder_self (node : Node) : SameOrder node node := by
  induction node using induct with
  | step layer ih =>
    refine ⟨_, _, fun name slot hslot found hfound => ?_, fun name slot hslot found hfound => ?_⟩
    · rw [Option.mem_unique hslot hfound]
    · obtain rfl := Option.mem_unique hslot hfound
      rintro ⟨child, child'⟩ hpair
      have hsame : List.Forall₂ Eq slot.toList slot.toList := List.forall₂_same.2 fun _ _ => rfl
      obtain rfl : child = child' := List.forall₂_zip hsame hpair
      exact ih child
        (Layer.mem_nodes_of_mem (Table.mem_of_get? hslot) (List.of_mem_zip hpair).1)

lemma SameOrder.of_children {layer other : Layer Node} (h : layer.children = other.children) :
    SameOrder (.mk layer) (.mk other) := by
  cases sameOrder_self (.mk layer) with
  | mk _ _ keys below => exact ⟨_, _, h ▸ keys, h ▸ below⟩

variable {schema : Schema} {node other : Node}

/-- What the listing of a tree shows is kept by equality, apart from zeros and the order of keys. -/
lemma fold_eq_of_equal (horder : SameOrder node other) (hkeyed : node.Keyed)
    (hequal : node.equal other = true)
    (hzero : ∀ a, Scalar.double a ∈ node.values → a.isZero = false) :
    fold schema.itemsLayer node = fold schema.itemsLayer other := by
  induction horder with
  | mk layer other horder _ ih =>
    cases hkeyed with
    | mk _ hscalars hchildren hmaps hbelow =>
      obtain ⟨htag, hvalues, hslots⟩ := equal_mk_iff.1 hequal
      simp only [values_mk, List.mem_append, List.mem_flatMap] at hzero
      have hscalar : layer.scalars.Matches (fun slot found => slot.normal = found.normal)
          other.scalars :=
        hvalues.mono fun entry hentry found hfound => congrArg ScalarSlot.normal
          (ScalarSlot.eq_of_equal hfound fun a ha => hzero a (.inl ⟨entry, hentry, ha⟩))
      have hchild : layer.children.Matches (fun slot found =>
          slot.mapChildren (fold schema.itemsLayer) = found.mapChildren (fold schema.itemsLayer))
          other.children := by
        refine ⟨hslots.size, fun entry hentry => ?_⟩
        obtain ⟨found, hfound, hmatch⟩ := hslots.entries entry hentry
        have hslot := Table.get?_of_mem hchildren hentry
        have hkeys := horder entry.1 entry.2 hslot found hfound
        refine ⟨found, hfound, ChildSlot.mapChildren_eq_of_outline (hmatch.outline_eq hkeys) ?_⟩
        intro pair hpair
        have hmem : pair.1 ∈ layer.nodes :=
          Layer.mem_nodes_of_mem hentry (List.of_mem_zip hpair).1
        have hpairs := hmatch.forall₂ (hmaps entry hentry) hkeys
        exact ih entry.1 entry.2 hslot found hfound pair hpair (hbelow _ hmem)
          (List.forall₂_zip hpairs hpair) fun a ha => hzero a (.inr ⟨pair.1, hmem, ha⟩)
      rw [fold_mk, fold_mk]
      apply schema.itemsLayer_congr
      · exact htag
      · exact fun _ _ field _ => hscalar.map_get? hscalars field.name
      · intro _ _ field _
        rw [Layer.get?_mapChildren, Layer.get?_mapChildren]
        exact hchild.map_get? hchildren field.name

/-- Equality of trees is symmetric and transitive. A tree is equal to itself if no double in it, at
any depth, is no number, and only then. Equal trees are printed the same if they hold no zero and
have the keys of their maps in the same order. Every tree that is built is keyed. -/
theorem equal_laws :
    (∀ node other : Node, node.Keyed → node.equal other = true → other.equal node = true) ∧
      (∀ node other last : Node,
        node.equal other = true → other.equal last = true → node.equal last = true) ∧
      (∀ node : Node, node.Keyed →
        (node.equal node = true ↔ ∀ a, Scalar.double a ∈ node.values → a.isNaN = false)) ∧
      ∀ (schema : Schema) (node other : Node), node.Keyed → node.equal other = true →
        SameOrder node other → (∀ a, Scalar.double a ∈ node.values → a.isZero = false) →
        PrintsAs schema node other := by
  refine ⟨fun _ _ => equal_symm, fun _ _ _ => equal_trans, fun _ => equal_self_iff, ?_⟩
  intro schema node other hkeyed hequal horder hzero
  exact printsAs_of_fold_eq (fold_eq_of_equal horder hkeyed hequal hzero)

end Node

def boxSchema : Schema :=
  ⟨[⟨"Box", [⟨.double, "side", .single⟩], [⟨"parts", .dict⟩]⟩,
    ⟨"Part", [⟨.double, "weight", .single⟩], []⟩]⟩

def part (bits : UInt64) : Node := .build "Part" [.scalar "weight" (.double ⟨bits⟩)]

/-- A box with a side of 1.5 and parts of weights 1 and 2. -/
def box : Node :=
  .build "Box" [.scalar "side" (.double ⟨0x3FF8000000000000⟩),
    .dict "parts" (.ofList [("nut", part 0x3FF0000000000000), ("bolt", part 0x4000000000000000)])]

/-- The box with its fields given in another order. -/
def turnedBox : Node :=
  .build "Box" [
    .dict "parts" (.ofList [("nut", part 0x3FF0000000000000), ("bolt", part 0x4000000000000000)]),
    .scalar "side" (.double ⟨0x3FF8000000000000⟩)]

/-- The box with its parts given in another order. -/
def repackedBox : Node :=
  .build "Box" [.scalar "side" (.double ⟨0x3FF8000000000000⟩),
    .dict "parts" (.ofList [("bolt", part 0x4000000000000000), ("nut", part 0x3FF0000000000000)])]

lemma keyed_part (bits : UInt64) : (part bits).Keyed := by
  apply Node.keyed_build
  simp [FieldSetting.childSlot?]

lemma keyed_box : box.Keyed := by
  have hparts : ∀ child ∈ [part 0x3FF0000000000000, part 0x4000000000000000], child.Keyed := by
    simp [keyed_part]
  apply Node.keyed_build
  simp only [List.forall_mem_cons, FieldSetting.childSlot?, Option.mem_def, Option.some.injEq,
    reduceCtorEq, IsEmpty.forall_iff, implies_true, List.not_mem_nil, and_true, true_and,
    forall_eq']
  exact ⟨Table.nodup_keys_ofList _, hparts⟩

/-- The turned and the repacked box are equal to the box, and the turned one is printed the same. -/
theorem equal_box :
    turnedBox.equal box = true ∧ box.equal repackedBox = true ∧ box.equal box = true ∧
      Node.PrintsAs boxSchema box turnedBox := by
  obtain ⟨hsymm, htrans, hself, hprints⟩ := Node.equal_laws
  have hturned : box.equal turnedBox = true := by decide
  have hrepacked : turnedBox.equal repackedBox = true := by decide
  have hvalues : box.values =
      [.double ⟨0x3FF8000000000000⟩, .double ⟨0x3FF0000000000000⟩,
        .double ⟨0x4000000000000000⟩] := by decide
  have hdoubles : ∀ a, Scalar.double a ∈ box.values → a.isNaN = false ∧ a.isZero = false := by
    intro a ha
    rw [hvalues] at ha
    simp only [List.mem_cons, Scalar.double.injEq, List.not_mem_nil, or_false] at ha
    obtain rfl | rfl | rfl := ha <;> decide
  refine ⟨hsymm _ _ keyed_box hturned, htrans _ _ _ hturned hrepacked,
    (hself _ keyed_box).2 fun a ha => (hdoubles a ha).1, ?_⟩
  exact hprints _ _ _ keyed_box hturned (.of_children rfl) fun a ha => (hdoubles a ha).2

end TreeDump
