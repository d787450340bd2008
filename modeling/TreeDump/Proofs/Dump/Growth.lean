import TreeDump.Proofs.Dump.Rendering
import TreeDump.Proofs.Schema.Registration

/-!
# Dumps by a grown schema

A schema grows only at its end, so what it finds it finds also when it has grown. The listing of a
tree then stays as it is, but for nodes whose tags were not registered before. Main statement: a dump
by a grown schema is the same dump, unless the dump before missed a tag that has been registered
since. In that case the new dump goes on from where the old one ended.
-/

namespace TreeDump

/-- Two listings agree up to the first node that is missing in the first one and whose tag is
registered for the second one. -/
inductive Item.Grown (registered : String → Prop) : List Item → List Item → Prop where
  | nil : Grown registered [] []
  | cons (item : Item) {old new : List Item} (rest : Grown registered old new) :
      Grown registered (item :: old) (item :: new)
  | opened {tag : String} (found : registered tag) (old new : List Item) :
      Grown registered (.defect (.dispatchMismatch tag) :: old) new

namespace Item.Grown

variable {registered : String → Prop} {old new : List Item}

lemma refl (items : List Item) : Grown registered items items := by
  induction items with
  | nil => exact nil
  | cons item items ih => exact cons item ih

lemma append {more more' : List Item} (hfront : Grown registered old new)
    (hback : Grown registered more more') : Grown registered (old ++ more) (new ++ more') := by
  induction hfront with
  | nil => exact hback
  | cons item _ ih => exact cons item ih
  | opened found old new => exact opened found _ _

lemma flatMap {α : Type} {before after : α → List Item} {elements : List α}
    (h : ∀ element ∈ elements, Grown registered (before element) (after element)) :
    Grown registered (elements.flatMap before) (elements.flatMap after) := by
  induction elements with
  | nil => exact nil
  | cons element elements ih =>
    rw [List.flatMap_cons, List.flatMap_cons]
    exact (h element (by simp)).append (ih fun other hother => h other (by simp [hother]))

end Item.Grown

lemma ChildField.grown_items (field : ChildField) {registered : String → Prop} {node : Layer Node}
    {before after : Node → Listing}
    (h : ∀ child ∈ node.nodes, ∀ depth,
      Item.Grown registered (before child depth) (after child depth))
    (depth : Nat) :
    Item.Grown registered (field.items (node.mapChildren before) depth)
      (field.items (node.mapChildren after) depth) := by
  have hchild : ∀ child ∈ node.childrenIn field.name, ∀ depth,
      Item.Grown registered (before child depth) (after child depth) :=
    fun child hmem => h child (Layer.mem_nodes hmem)
  obtain ⟨name, cardinality⟩ := field
  unfold items
  unfold Layer.childrenIn at hchild
  simp only [Layer.get?_mapChildren, Layer.tag_mapChildren]
  rcases hslot : node.children.get? name with _ | child | children | entries
  · exact .refl _
  · rw [hslot] at hchild
    cases cardinality with
    | single =>
      cases child with
      | none => exact .refl _
      | some child => exact hchild child (by simp [ChildSlot.toList]) depth
    | _ => exact .refl _
  · rw [hslot] at hchild
    cases cardinality with
    | list =>
      simp only [Option.map_some, ChildSlot.mapChildren, Option.bind_some, items?, if_true,
        Option.getD_some, List.length_map, List.flatMap_map]
      exact .cons _ (.flatMap fun child hmem => hchild child hmem (depth + 1))
    | _ => exact .refl _
  · rw [hslot] at hchild
    cases cardinality with
    | dict =>
      simp only [Option.map_some, ChildSlot.mapChildren, Option.bind_some, items?, if_true,
        Option.getD_some, Table.size_map]
      simp only [Table.map, List.flatMap_map]
      have hentry : ∀ entry ∈ entries.entries, ∀ depth,
          Item.Grown registered (before entry.2 depth) (after entry.2 depth) :=
        fun entry hmem => hchild entry.2 (List.mem_map_of_mem hmem)
      exact .cons _ (.flatMap fun entry hmem => .cons _ (hentry entry hmem (depth + 2)))
    | _ => exact .refl _

namespace Schema

lemma get?_append {schema : Schema} {name : String} {descriptor : Descriptor}
    (h : schema.get? name = some descriptor) (more : List Descriptor) :
    (⟨schema.descriptors ++ more⟩ : Schema).get? name = some descriptor := by
  unfold get? at h ⊢
  rw [List.find?_append, h]
  rfl

lemma grown_fold (schema : Schema) (more : List Descriptor) (node : Node) (depth : Nat) :
    Item.Grown (fun tag => (⟨schema.descriptors ++ more⟩ : Schema).get? tag ≠ none)
      (Node.fold schema.itemsLayer node depth)
      (Node.fold (⟨schema.descriptors ++ more⟩ : Schema).itemsLayer node depth) := by
  induction node using Node.induct generalizing depth with
  | step layer ih =>
    rw [Node.fold_mk, Node.fold_mk]
    unfold itemsLayer
    simp only [Layer.tag_mapChildren]
    cases hold : schema.get? layer.tag with
    | some descriptor =>
      rw [get?_append hold more]
      exact .cons _ ((Item.Grown.refl _).append (.flatMap fun field _ =>
        field.grown_items (fun child hchild => ih child hchild) (depth + 1)))
    | none =>
      cases hnew : (⟨schema.descriptors ++ more⟩ : Schema).get? layer.tag with
      | none => exact .refl _
      | some descriptor => exact .opened (by simp [hnew]) _ _

lemma grown_listing (schema : Schema) (more : List Descriptor) (node : Option Node) (depth : Nat) :
    Item.Grown (fun tag => (⟨schema.descriptors ++ more⟩ : Schema).get? tag ≠ none)
      (schema.listing node depth)
      ((⟨schema.descriptors ++ more⟩ : Schema).listing node depth) := by
  cases node with
  | none => exact .refl _
  | some tree => exact schema.grown_fold more tree depth

end Schema

namespace DumpM

/-- A dump that is the same as another one, or goes on where that one misses a registered tag. -/
def Continues (registered : String → Prop) (old new : DumpM Unit) : Prop :=
  new = old ∨ ∃ front tag rest, registered tag ∧ Direct rest ∧
    old = (write front >>= fun _ => ofExcept (.error (.dispatchMismatch tag))) ∧
    new = (write front >>= fun _ => rest)

lemma direct_perform (items : List Item) : Direct (perform items) := by
  rw [perform_eq_write]
  exact (Direct.write _).bind fun _ => .ofExcept _

lemma continues_perform {registered : String → Prop} {old new : List Item}
    (h : Item.Grown registered old new) : Continues registered (perform old) (perform new) := by
  induction h with
  | nil => exact .inl rfl
  | @cons item old new _ ih =>
    cases item with
    | defect error => exact .inl rfl
    | line line =>
      have hline : ∀ items, perform (.line line :: items) =
          (write line.render >>= fun _ => perform items) := by
        intro items
        rw [perform, performItem, line_eq_write]
      rw [hline, hline]
      obtain heq | ⟨front, tag, rest, hregistered, hrest, hold, hnew⟩ := ih
      · left
        rw [heq]
      · right
        refine ⟨line.render ++ front, tag, rest, hregistered, hrest, ?_, ?_⟩
        · rw [hold, ← bind_assoc, write_append]
        · rw [hnew, ← bind_assoc, write_append]
  | @opened tag hregistered old new =>
    right
    refine ⟨"", tag, perform new, hregistered, direct_perform new, ?_, ?_⟩
    · rw [write_empty, pure_bind]
      rfl
    · rw [write_empty, pure_bind]

namespace Continues

variable {registered : String → Prop} {old new : DumpM Unit}

lemma enclosed (h : Continues registered old new) (title : String) :
    Continues registered
      (do DumpM.title title; old; write "\n")
      (do DumpM.title title; new; write "\n") := by
  obtain heq | ⟨front, tag, rest, hregistered, hrest, hold, hnew⟩ := h
  · left
    rw [heq]
  · right
    refine ⟨titleText title ++ front, tag, rest >>= fun _ => write "\n", hregistered,
      hrest.bind fun _ => .write "\n", ?_, ?_⟩
    · rw [hold, DumpM.title, bind_assoc, ← bind_assoc (write _), write_append, ofExcept_error_bind]
    · rw [hnew, DumpM.title, bind_assoc, ← bind_assoc (write _), write_append]

/-- On a sink that never fails, a dump that goes on has everything that the other one has written. -/
lemma runOn (h : Continues registered old new) {sink : Sink} (hroom : sink.room = none) :
    new.runOn sink = old.runOn sink ∨ ∃ tag, registered tag ∧
      (old.runOn sink).1 = .error (.dispatchMismatch tag) ∧
      ∃ more, (new.runOn sink).2.bytes = (old.runOn sink).2.bytes ++ more := by
  obtain heq | ⟨front, tag, rest, hregistered, ⟨more, result, rfl⟩, rfl, rfl⟩ := h
  · exact .inl (by rw [heq])
  · right
    have hfront := runOn_write_of_fits (Sink.fits_of_room_eq_none hroom front)
    have hafter : (sink.take front).room = none := by
      rw [Sink.take, hroom]
      rfl
    refine ⟨tag, hregistered, ?_, more, ?_⟩
    · rw [runOn_bind_ok hfront]
      rfl
    · rw [runOn_bind_ok hfront, runOn_bind_ok hfront, runOn_emit, Sink.write, hafter]
      rfl

lemma runOn_titled (h : Continues registered old new) (title : String) {sink : Sink}
    (hroom : sink.room = none) :
    (titled title new).runOn sink = (titled title old).runOn sink ∨ ∃ tag, registered tag ∧
      ((titled title old).runOn sink).1 = .error (.dispatchMismatch tag) ∧
      ∃ more, ((titled title new).runOn sink).2.bytes =
        ((titled title old).runOn sink).2.bytes ++ more := by
  obtain heq | ⟨tag, hregistered, hold, more, hbytes⟩ := (h.enclosed title).runOn hroom
  · left
    rw [DumpM.runOn_titled, DumpM.runOn_titled, heq]
  · right
    refine ⟨tag, hregistered, ?_, more, ?_⟩
    · rw [DumpM.runOn_titled]
      dsimp only
      rw [hold]
      rfl
    · rw [DumpM.runOn_titled, DumpM.runOn_titled]
      exact hbytes

end Continues

end DumpM

open DumpM

namespace Schema

variable (schema : Schema) (more : List Descriptor)

lemma continues_printNode (node : Option Node) (depth : Nat) :
    Continues (fun tag => (⟨schema.descriptors ++ more⟩ : Schema).get? tag ≠ none)
      (schema.printNode node depth)
      ((⟨schema.descriptors ++ more⟩ : Schema).printNode node depth) := by
  rw [printNode_eq_perform, printNode_eq_perform]
  exact continues_perform (schema.grown_listing more node depth)

lemma continues_tableItems (table : Table Node) :
    Continues (fun tag => (⟨schema.descriptors ++ more⟩ : Schema).get? tag ≠ none)
      (perform (schema.tableItems table))
      (perform ((⟨schema.descriptors ++ more⟩ : Schema).tableItems table)) :=
  continues_perform (.cons _ (.flatMap fun entry _ =>
    .cons _ (schema.grown_listing more (some entry.2) entryDepth)))

end Schema

/-- A call by a grown schema does what it did before, or it goes on where it missed a tag that has
been registered since. -/
lemma Call.runOn_grown (call : Call) (schema : Schema) (more : List Descriptor) {sink : Sink}
    (hroom : sink.room = none) :
    (call.dump ⟨schema.descriptors ++ more⟩).runOn sink = (call.dump schema).runOn sink ∨
      ∃ tag, (⟨schema.descriptors ++ more⟩ : Schema).get? tag ≠ none ∧
        ((call.dump schema).runOn sink).1 = .error (.dispatchMismatch tag) ∧
        ∃ rest, ((call.dump ⟨schema.descriptors ++ more⟩).runOn sink).2.bytes =
          ((call.dump schema).runOn sink).2.bytes ++ rest := by
  cases call with
  | printTree root title => exact (schema.continues_printNode more root 0).runOn_titled title hroom
  | printNode node depth => exact (schema.continues_printNode more node depth).runOn hroom
  | dumpTable table title =>
    simp only [dump, Schema.dumpTable_eq_perform]
    exact (schema.continues_tableItems more table).runOn_titled title hroom
  | printTokens tokens => exact .inl rfl
  | dumpConstantTable constants symbols objects title => exact .inl rfl
  | dumpSet names title => exact .inl rfl

/-- What could be printed stays as it was when a schema grows. On a sink that takes everything, a
call that succeeds, or that fails other than for a tag, does the same by the grown schema, and so it
does if it fails for a tag that is still not registered. If the tag has been registered since, then
the call by the grown schema writes all that was written before, and goes on from there. -/
theorem Schema.runOn_dump_afterAll (schema : Schema) (registrations : List Registration)
    (call : Call) (sink : Sink) (h : sink.room = none) :
    let grown := schema.afterAll registrations
    let before := (call.dump schema).runOn sink
    let after := (call.dump grown).runOn sink
    match before.1 with
    | .error (.dispatchMismatch tag) =>
      if grown.get? tag = none then after = before
      else ∃ rest, after.2.bytes = before.2.bytes ++ rest
    | _ => after = before := by
  intro grown before after
  have hgrown : grown = ⟨schema.descriptors ++ schema.accepted registrations⟩ :=
    congrArg Schema.mk (schema.descriptors_afterAll registrations)
  obtain hsame | ⟨tag, hregistered, hfailed, hrest⟩ :=
    call.runOn_grown schema (schema.accepted registrations) h
  · have hafter : after = before := by
      rw [← hgrown] at hsame
      exact hsame
    split
    · split
      · exact hafter
      · exact ⟨.empty, by rw [hafter, ByteArray.append_empty]⟩
    · exact hafter
  · have hbefore : before.1 = .error (.dispatchMismatch tag) := hfailed
    rw [← hgrown] at hregistered hrest
    rw [hbefore]
    dsimp only
    rw [if_neg hregistered]
    exact hrest

def branchSchema : Schema := ⟨[⟨"Branch", [], [⟨"left", .single⟩, ⟨"right", .single⟩]⟩]⟩

/-- A branch with no left child and a leaf on the right. -/
def branchNode : Node :=
  .mk ⟨"Branch", .empty,
    .ofList [("left", .single none), ("right", .single (some (.mk ⟨"Leaf", .empty, .empty⟩)))]⟩

/-- The leaf is missed at first. When it has been registered, the dump goes on. -/
theorem Schema.runOn_dump_leaf_registered :
    let call := Call.printNode (some branchNode) 0
    let sink := Sink.new none false
    ((call.dump branchSchema).runOn sink).1 = .error (.dispatchMismatch "Leaf") ∧
      ∃ rest,
        ((call.dump (branchSchema.afterAll [.descriptor ⟨"Leaf", [], []⟩])).runOn sink).2.bytes =
          ((call.dump branchSchema).runOn sink).2.bytes ++ rest :=
  ⟨rfl, branchSchema.runOn_dump_afterAll [.descriptor ⟨"Leaf", [], []⟩]
    (.printNode (some branchNode) 0) (.new none false) rfl⟩

end TreeDump
