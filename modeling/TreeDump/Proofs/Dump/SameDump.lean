import TreeDump.Proofs.Dump.Unambiguous

/-!
# Trees with the same dump

Two trees that conform to a schema have the same dump exactly if they have the same declared part,
whether they are dumped below a depth or under a title. No name may have a line break for this, and
no descriptor may be named as an absent child is printed.
-/

namespace TreeDump

variable {schema : Schema} {sink : Sink}

namespace Schema

lemma declared_eq_of_leadingText (hnone : "None" ∉ schema.names) (hschema : schema.OneLine)
    {tree other : Option Node} (htree : ∀ node ∈ tree, node.Conforms schema ∧ node.OneLine schema)
    (hother : ∀ node ∈ other, node.Conforms schema ∧ node.OneLine schema) {depth : Nat}
    (h : schema.leadingText tree depth = schema.leadingText other depth) :
    tree.map schema.declared = other.map schema.declared := by
  have hlines := map_leading_listing (fun node hnode => (htree node hnode).1) depth
  have hlines' := map_leading_listing (fun node hnode => (hother node hnode).1) depth
  have hunbroken :=
    unbroken_listing hschema (fun node hnode => (htree node hnode).2.unbroken) depth
  have hunbroken' :=
    unbroken_listing hschema (fun node hnode => (hother node hnode).2.unbroken) depth
  rw [← hlines, List.forall_mem_map] at hunbroken
  rw [← hlines', List.forall_mem_map] at hunbroken'
  have hrender := Line.map_render_eq_of_renderAll hunbroken hunbroken' h
  have hsame : optionalLines schema tree depth ++ [] = optionalLines schema other depth ++ [] := by
    rw [optionalLines, optionalLines, renderItems, renderItems, ← hlines, ← hlines', List.map_map,
      List.map_map]
    exact congrArg (· ++ []) hrender
  exact (declared_eq_of_optionalLines hnone
    (fun node hnode => Node.readable_of_conforms hnone (htree node hnode).1)
    (fun node hnode => (htree node hnode).1) (fun node hnode => (hother node hnode).1) hsame).1

lemma printNode_eq_of_declared_eq {tree other : Option Node}
    (h : tree.map schema.declared = other.map schema.declared) (depth : Nat) :
    schema.printNode tree depth = schema.printNode other depth := by
  rw [printNode_eq_perform, printNode_eq_perform, ← listing_declared, h, listing_declared]

/-- Trees that conform have the same dump, below a depth or under a title, exactly if they have the
same declared part. -/
theorem bytes_eq_iff_declared_eq (hnone : "None" ∉ schema.names) (hschema : schema.OneLine)
    {tree other : Option Node} (htree : ∀ node ∈ tree, node.Conforms schema ∧ node.OneLine schema)
    (hother : ∀ node ∈ other, node.Conforms schema ∧ node.OneLine schema)
    (hroom : sink.room = none) (depth : Nat) (title : String) :
    (((schema.printNode tree depth).runOn sink).2.bytes =
          ((schema.printNode other depth).runOn sink).2.bytes ↔
        tree.map schema.declared = other.map schema.declared) ∧
      (((schema.printTree tree title).runOn sink).2.bytes =
          ((schema.printTree other title).runOn sink).2.bytes ↔
        tree.map schema.declared = other.map schema.declared) := by
  have hfits := Sink.fits_of_room_eq_none hroom
  have hwrite := printNode_eq_write_of_conforms fun node hnode => (htree node hnode).1
  have hwrite' := printNode_eq_write_of_conforms fun node hnode => (hother node hnode).1
  refine ⟨⟨fun hbytes => ?_, fun hdeclared => ?_⟩, fun hbytes => ?_, fun hdeclared => ?_⟩
  · rw [hwrite, hwrite', DumpM.runOn_write_of_fits (hfits _), DumpM.runOn_write_of_fits (hfits _)]
      at hbytes
    exact declared_eq_of_leadingText hnone hschema htree hother (Sink.take_bytes_injective hbytes)
  · rw [printNode_eq_of_declared_eq hdeclared]
  · rw [printTree, printTree, hwrite, hwrite', DumpM.runOn_titled_write (hfits _),
      DumpM.runOn_titled_write (hfits _)] at hbytes
    have htexts := Sink.take_bytes_injective hbytes
    rw [String.append_left_inj, String.append_right_inj] at htexts
    exact declared_eq_of_leadingText hnone hschema htree hother htexts
  · rw [printTree, printTree, printNode_eq_of_declared_eq hdeclared]

end Schema

def intSchema : Schema := ⟨[⟨"IntInit", [⟨.int, "value", .single⟩], []⟩]⟩

/-- A node with fields before the declared one. -/
def intNode (before : List (String × ScalarSlot)) : Node :=
  .mk ⟨"IntInit", ⟨before ++ [("value", .single (.int 3))]⟩, .empty⟩

lemma oneLine_intNode {before : List (String × ScalarSlot)} (h : before.lookup "value" = none) :
    (intNode before).OneLine intSchema := by
  apply Node.OneLine.mk _ ⟨"IntInit", [⟨.int, "value", .single⟩], []⟩ (by rfl)
  · intro field hfield name hname
    obtain rfl := List.mem_singleton.1 hfield
    have hslot : (before ++ [("value", ScalarSlot.single (.int 3))]).lookup "value" =
        some (.single (.int 3)) := by
      rw [List.lookup_append, h]
      rfl
    simp [Layer.scalarsIn, Table.get?, hslot, ScalarSlot.toList] at hname
  · simp
  · simp

/-- An undeclared field does not show in the dump. -/
theorem bytes_intNode_eq :
    ((intSchema.printNode (some (intNode [("note", .single (.bool true))])) 0).runOn
        (.new none false)).2.bytes =
      ((intSchema.printNode (some (intNode [])) 0).runOn (.new none false)).2.bytes := by
  have hnode : ∀ node ∈ some (intNode []), node.Conforms intSchema ∧ node.OneLine intSchema := by
    intro node hnode
    obtain rfl := Option.some.inj hnode
    exact ⟨by decide, oneLine_intNode rfl⟩
  have hother : ∀ node ∈ some (intNode [("note", .single (.bool true))]),
      node.Conforms intSchema ∧ node.OneLine intSchema := by
    intro node hnode
    obtain rfl := Option.some.inj hnode
    exact ⟨by decide, oneLine_intNode rfl⟩
  exact (Schema.bytes_eq_iff_declared_eq (by decide) (by unfold Schema.OneLine; decide) hother hnode
    rfl 0 "").1.2 rfl

end TreeDump
