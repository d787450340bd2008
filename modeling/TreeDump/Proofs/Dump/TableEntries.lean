import TreeDump.Proofs.Dump.Deeper
import TreeDump.Proofs.Dump.Rendering

/-!
# Tables and maps of children

A table of nodes is dumped as the map of children is printed that holds its entries, in an owner at
the margin: the keys and the trees are the same lines, and only the marker is another one. Both end
at the first tree that does not conform. A map in a deeper owner is the same map deeper.
-/

namespace TreeDump

open DumpM

namespace Schema

/-- Prints a declared child field of a node whose heading is at a depth. -/
def printChild (schema : Schema) (owner : Layer Node) (field : ChildField) (depth : Nat) :
    DumpM Unit :=
  field.print (owner.mapChildren (Node.fold schema.printLayer)) depth

lemma printNode_eq_bind {schema : Schema} {owner : Layer Node} {descriptor : Descriptor}
    (h : schema.get? owner.tag = some descriptor) (depth : Nat) :
    schema.printNode (some (.mk owner)) depth = (do
      .heading descriptor.name (depth + 1)
      descriptor.scalars.forM fun field =>
        field.print (owner.mapChildren (Node.fold schema.printLayer)) (depth + 1)
      descriptor.children.forM fun field => schema.printChild owner field (depth + 1)) := by
  change Node.fold schema.printLayer (.mk owner) depth = _
  rw [Node.fold_mk, printLayer, Layer.tag_mapChildren, h]
  rfl

/-- What is printed of an entry of a table: its key, and its tree up to the first defect. -/
def entryText (schema : Schema) (entry : String × Node) : String :=
  "\n  [" ++ entry.1 ++ "]:" ++ schema.leadingText (some entry.2) 2

/-- What entries are printed as, one after the other, up to the first whose tree does not conform,
and how that ends. -/
inductive PrintsEntries (schema : Schema) :
    List (String × Node) → String → Except DumpError Unit → Prop where
  | nil : PrintsEntries schema [] "" (.ok ())
  | conforms {entry : String × Node} {rest : List (String × Node)} {text : String}
      {result : Except DumpError Unit} :
      entry.2.Conforms schema → PrintsEntries schema rest text result →
      PrintsEntries schema (entry :: rest) (schema.entryText entry ++ text) result
  | stops {entry : String × Node} {rest : List (String × Node)} : ¬ entry.2.Conforms schema →
      PrintsEntries schema (entry :: rest) (schema.entryText entry)
        (schema.outcome (some entry.2) 2)

/-- The listing of an entry whose key is at a depth. -/
def entryItems (schema : Schema) (depth : Nat) (entry : String × Node) : List Item :=
  .line (.key entry.1 depth) :: schema.listing (some entry.2) depth

lemma printsEntries_items (schema : Schema) (entries : List (String × Node)) :
    schema.PrintsEntries entries
      (Line.renderAll (Item.leading (entries.flatMap (schema.entryItems 2))))
      (Item.outcome (entries.flatMap (schema.entryItems 2))) := by
  induction entries with
  | nil => exact .nil
  | cons entry entries ih =>
    have houtcome : Item.outcome (schema.entryItems 2 entry) = schema.outcome (some entry.2) 2 :=
      rfl
    have htext : Line.renderAll (Item.leading (schema.entryItems 2 entry)) =
        schema.entryText entry := by
      rw [entryText, ← Line.render_key]
      rfl
    have hconforms : schema.outcome (some entry.2) 2 = .ok () ↔
        entry.2.Conforms schema := by
      simpa using schema.outcome_eq_ok_iff (some entry.2) 2
    rw [List.flatMap_cons, Item.outcome_append, Item.leading_append, Line.renderAll_append, htext,
      houtcome]
    by_cases h : entry.2.Conforms schema
    · rw [hconforms.2 h, if_pos rfl]
      exact .conforms h ih
    · have hfailed : schema.outcome (some entry.2) 2 ≠ .ok () := fun hok =>
        h (hconforms.1 hok)
      cases hresult : schema.outcome (some entry.2) 2 with
      | ok => exact absurd hresult hfailed
      | error error =>
        have hstops : schema.PrintsEntries (entry :: entries) (schema.entryText entry)
            (schema.outcome (some entry.2) 2) := .stops h
        rw [hresult] at hstops
        rw [if_neg (by simp), Line.renderAll, String.append_empty]
        exact hstops

/-- The listing of a map whose owner's heading is at a depth. -/
def dictItems (schema : Schema) (table : Table Node) (depth : Nat) : List Item :=
  .line (.dict table.size (depth + 1)) ::
    table.entries.flatMap (schema.entryItems (depth + 2))

lemma shifts_dictItems (schema : Schema) (table : Table Node) (more : Nat) :
    Listing.Shifts more (schema.dictItems table) := by
  intro depth
  refine .line _ (by omega) (by omega) (.flatMap fun entry _ => ?_)
  rw [Nat.add_right_comm]
  exact .line _ (by omega) rfl (schema.shifts_listing (some entry.2) (depth + 2))

variable {schema : Schema} {table : Table Node}

lemma unbroken_dictItems (hschema : schema.OneLine)
    (hentries : ∀ entry ∈ table.entries, TreeDump.OneLine entry.1 ∧ entry.2.Unbroken schema)
    (depth : Nat) : ∀ item ∈ schema.dictItems table depth, item.Unbroken := by
  simp only [dictItems, entryItems, List.forall_mem_cons, List.forall_mem_flatMap]
  refine ⟨Line.unbroken_dict _ _, fun entry hentry => ?_⟩
  obtain ⟨hkey, htree⟩ := hentries entry hentry
  refine ⟨Line.unbroken_key hkey _, unbroken_listing hschema ?_ _⟩
  simpa using htree

lemma printChild_eq_perform {owner : Layer Node} {field : ChildField}
    (hdict : field.cardinality = .dict)
    (hslot : owner.children.get? field.name = some (.dict table)) (depth : Nat) :
    schema.printChild owner field depth = perform (schema.dictItems table depth) := by
  obtain ⟨name, cardinality⟩ := field
  obtain rfl : cardinality = .dict := hdict
  rw [printChild, fold_printLayer, ← Layer.mapChildren_mapChildren, ChildField.print_eq,
    ChildField.items_of_dict _ hslot]
  rfl

/-- On sinks that do not fail, the body of a table dump and a map of children with the same entries
in an owner at the margin differ in the marker alone. They end with the same result, behind the same
text of the entries, which is that up to the first tree that does not conform. In a deeper owner the
map has the same result and more spaces behind each line feed, if no text has a line feed. -/
theorem runOn_dumpTable_printChild {owner : Layer Node} {field : ChildField}
    (hdict : field.cardinality = .dict)
    (hslot : owner.children.get? field.name = some (.dict table)) (title : String) :
    ∃ text result, schema.PrintsEntries table.entries text result ∧
      (∀ sink : Sink, sink.room = none → sink.failsFlush = false →
        (schema.dumpTable table title).runOn sink =
          (result, (sink.write (sectionBytes title
            ("\nDict(" ++ Decimal.ofNat table.size ++ "):" ++ text).toUTF8 result)).2.flush.2)) ∧
      (∀ sink : Sink, sink.room = none → (schema.printChild owner field 0).runOn sink =
        (result, sink.take ("\nDict[" ++ Decimal.ofNat table.size ++ "]:" ++ text))) ∧
      (schema.OneLine →
        (∀ entry ∈ table.entries, TreeDump.OneLine entry.1 ∧ entry.2.Unbroken schema) →
        ∀ (depth : Nat) (sink : Sink), sink.room = none →
          (schema.printChild owner field depth).runOn sink =
            (result, sink.take (spaced (2 * depth)
              ("\nDict[" ++ Decimal.ofNat table.size ++ "]:" ++ text)))) := by
  have hmap : ∀ depth (sink : Sink), sink.room = none →
      (schema.printChild owner field depth).runOn sink =
        (Item.outcome (schema.dictItems table depth),
          sink.take (Line.renderAll (Item.leading (schema.dictItems table depth)))) := by
    intro depth sink hroom
    rw [printChild_eq_perform hdict hslot]
    exact runOn_perform (Sink.fits_of_room_eq_none hroom _)
  refine ⟨_, _, schema.printsEntries_items table.entries, ?_, ?_, ?_⟩
  · intro sink hroom hflush
    rw [dumpTable_eq_perform, perform_eq_write, ← Line.render_table]
    exact runOn_titled_emit title _ _ hroom hflush
  · rw [← Line.render_dict]
    exact hmap 0
  · intro hschema hentries depth sink hroom
    have hdeeper := schema.shifts_dictItems table depth 0
    rw [Nat.zero_add] at hdeeper
    rw [hmap depth sink hroom, ← Line.render_dict, hdeeper.outcome_eq,
      hdeeper.renderAll_eq (unbroken_dictItems hschema hentries 0)]
    rfl

end Schema

/-- An empty drawer and a part that is not registered. -/
def drawerParts : List (String × Node) := [("x", drawer "inner" []), ("y", screw)]

/-- The same parts in a table and in a drawer at depth 3. Both end behind the key of the part that is
not registered. -/
theorem runOn_dumpTable_drawerParts :
    (drawerSchema.dumpTable ⟨drawerParts⟩ "Parts").runOn (.new none false) =
        (.error (.dispatchMismatch "Screw"), ((Sink.new none false).write
          ("@@ Parts @@\nDict(2):\n  [x]:\n    Drawer:\n      label: inner\n      Dict[0]:" ++
            "\n  [y]:").toUTF8).2.flush.2) ∧
      (drawerSchema.printChild (drawer "outer" drawerParts).layer ⟨"parts", .dict⟩ 3).runOn
          (.new none false) =
        (.error (.dispatchMismatch "Screw"), (Sink.new none false).take
          ("\n      Dict[2]:\n        [x]:\n          Drawer:\n            label: inner" ++
            "\n            Dict[0]:\n        [y]:")) := by
  have hslot : (drawer "outer" drawerParts).layer.children.get? "parts" =
      some (.dict ⟨drawerParts⟩) := rfl
  have hinner : (drawer "inner" []).Unbroken drawerSchema :=
    unbroken_drawer (by decide) fun _ hpart => nomatch hpart
  have hentries : ∀ entry ∈ drawerParts, OneLine entry.1 ∧ entry.2.Unbroken drawerSchema := by
    rw [drawerParts, List.forall_mem_cons, List.forall_mem_singleton]
    exact ⟨⟨by decide, hinner⟩, by decide, unbroken_screw⟩
  obtain ⟨text, result, hprints, htable, -, hdeeper⟩ :=
    @Schema.runOn_dumpTable_printChild drawerSchema ⟨drawerParts⟩ _ ⟨"parts", .dict⟩ rfl hslot
      "Parts"
  obtain ⟨rfl, rfl⟩ : text =
      "\n  [x]:\n    Drawer:\n      label: inner\n      Dict[0]:\n  [y]:" ∧
        result = .error (.dispatchMismatch "Screw") := by
    cases hprints with
    | conforms hx hrest =>
      cases hrest with
      | conforms hy => exact absurd hy (by decide)
      | stops => exact ⟨by decide +kernel, rfl⟩
    | stops hx => exact absurd (by decide) hx
  refine ⟨(htable _ rfl rfl).trans ?_,
    (hdeeper (by unfold Schema.OneLine; decide) hentries 3 _ rfl).trans ?_⟩
  · refine congrArg (fun bytes => (_, ((Sink.new none false).write bytes).2.flush.2)) ?_
    decide +kernel
  · refine congrArg (fun text => (_, (Sink.new none false).take text)) ?_
    decide +kernel

end TreeDump
