import TreeDump.Proofs.Dump.Unbroken

/-!
# Trees at greater depths

How deep a tree is printed shows only in where its lines stand: each line stands as many steps
deeper as the tree is printed deeper, and what is wrong with the tree is wrong at every depth. So
the text of a deeper dump is that of the other one with spaces behind each line feed, if the lines
have no line feeds of their own. The same holds of the lines before a failure.
-/

namespace TreeDump

/-- A text with a number of spaces behind each line feed. -/
def spaced (count : Nat) (text : String) : String :=
  String.ofList (text.toList.flatMap fun c =>
    if c = '\n' then '\n' :: List.replicate count ' ' else [c])

lemma spaced_append (count : Nat) (front back : String) :
    spaced count (front ++ back) = spaced count front ++ spaced count back := by
  simp [spaced]

lemma spaced_of_oneLine {text : String} (h : OneLine text) (count : Nat) :
    spaced count text = text := by
  have hchars : (text.toList.flatMap fun c =>
      if c = '\n' then '\n' :: List.replicate count ' ' else [c]) = text.toList.flatMap ([·]) := by
    refine List.flatMap_congr fun c hc => if_neg fun hnewline => ?_
    rw [hnewline] at hc
    exact h hc
  rw [spaced, hchars, List.flatMap_singleton', String.ofList_toList]

lemma spaced_render {text : String} (h : OneLine text) {depth : Nat} (hpos : 0 < depth)
    (more : Nat) :
    spaced (2 * more) (Line.render ⟨text, depth⟩) = Line.render ⟨text, depth + more⟩ := by
  have hspaces : OneLine (String.ofList (List.replicate (2 * (depth - 1)) ' ')) := by
    simp [OneLine]
  have hbreak : spaced (2 * more) "\n" = "\n" ++ String.ofList (List.replicate (2 * more) ' ') := by
    simp [spaced]
  have hwidth : 2 * (depth + more - 1) = 2 * more + 2 * (depth - 1) := by omega
  rw [Line.render, Line.render, spaced_append, spaced_append, spaced_of_oneLine hspaces,
    spaced_of_oneLine h, hbreak, hwidth, ← List.replicate_append_replicate, String.ofList_append,
    ← String.append_assoc]

/-- The second listing has the items of the first one, with the lines some steps deeper. -/
inductive Item.Deeper (more : Nat) : List Item → List Item → Prop where
  | nil : Deeper more [] []
  | line (text : String) {depth depth' : Nat} (pos : 0 < depth) (sum : depth' = depth + more)
      {items deeper : List Item} (rest : Deeper more items deeper) :
      Deeper more (.line ⟨text, depth⟩ :: items) (.line ⟨text, depth'⟩ :: deeper)
  | defect (error : DumpError) {items deeper : List Item} (rest : Deeper more items deeper) :
      Deeper more (.defect error :: items) (.defect error :: deeper)

/-- A listing that has the same items, with the lines deeper, where it begins deeper. -/
def Listing.Shifts (more : Nat) (listing : Listing) : Prop :=
  ∀ depth, Item.Deeper more (listing depth) (listing (depth + more))

section Listings

variable {more : Nat}

lemma Item.Deeper.append {front front' back back' : List Item} (hfront : Deeper more front front')
    (hback : Deeper more back back') : Deeper more (front ++ back) (front' ++ back') := by
  induction hfront with
  | nil => exact hback
  | line text hpos hsum _ ih => exact line text hpos hsum ih
  | defect error _ ih => exact defect error ih

lemma Item.Deeper.flatMap {α : Type} {before after : α → List Item} {elements : List α}
    (h : ∀ element ∈ elements, Deeper more (before element) (after element)) :
    Deeper more (elements.flatMap before) (elements.flatMap after) := by
  induction elements with
  | nil => exact .nil
  | cons element elements ih =>
    obtain ⟨hfirst, hrest⟩ := List.forall_mem_cons.1 h
    rw [List.flatMap_cons, List.flatMap_cons]
    exact hfirst.append (ih hrest)

lemma Listing.shifts_optional {listing : Option Listing}
    (h : ∀ found ∈ listing, found.Shifts more) :
    Shifts more (optional listing) := by
  intro depth
  cases listing with
  | none => exact .line _ (by omega) (by omega) .nil
  | some found => exact h found rfl depth

lemma ScalarField.deeper_items (field : ScalarField) {ν : Type} (node : Layer ν) (depth : Nat) :
    Item.Deeper more (field.items node depth) (field.items node (depth + more)) := by
  unfold items
  rcases node.scalars.get? field.name with _ | value | values
  · exact .defect _ .nil
  · simp only [Option.bind_some, lines?]
    by_cases hfits : field.cardinality = .single ∧ value.type = field.type
    · simp only [if_pos hfits, List.map_cons, List.map_nil]
      exact .line _ (by omega) (by omega) .nil
    · simp only [if_neg hfits]
      exact .defect _ .nil
  · simp only [Option.bind_some, lines?]
    by_cases hfits : field.cardinality = .list ∧ ∀ value ∈ values, value.type = field.type
    · simp only [if_pos hfits, List.map_cons, List.map_map]
      refine .line _ (by omega) (by omega) ?_
      rw [List.map_eq_flatMap, List.map_eq_flatMap]
      exact .flatMap fun value _ => .line _ (by omega) (by omega) .nil
    · simp only [if_neg hfits]
      exact .defect _ .nil

lemma ChildField.deeper_items (field : ChildField) {node : Layer Listing}
    (h : ∀ child ∈ node.childrenIn field.name, child.Shifts more) (depth : Nat) :
    Item.Deeper more (field.items node depth) (field.items node (depth + more)) := by
  unfold items
  unfold Layer.childrenIn at h
  rcases hslot : node.children.get? field.name with _ | child | children | entries
  · exact .defect _ .nil
  · rw [hslot] at h
    simp only [Option.bind_some, items?]
    split
    · exact Listing.shifts_optional (fun found hfound => h found (Option.mem_toList.2 hfound)) depth
    · exact .defect _ .nil
  · rw [hslot] at h
    simp only [Option.bind_some, items?]
    split
    · refine .line _ (by omega) (by omega) (.flatMap fun child hchild => ?_)
      rw [Nat.add_right_comm]
      exact h child hchild (depth + 1)
    · exact .defect _ .nil
  · rw [hslot] at h
    simp only [Option.bind_some, items?]
    split
    · refine .line _ (by omega) (by omega) (.flatMap fun entry hentry => ?_)
      rw [Nat.add_right_comm]
      exact .line _ (by omega) rfl (h entry.2 (List.mem_map_of_mem hentry) (depth + 2))
    · exact .defect _ .nil

lemma Schema.shifts_itemsLayer (schema : Schema) {node : Layer Listing}
    (h : ∀ child ∈ node.nodes, child.Shifts more) :
    Listing.Shifts more (schema.itemsLayer node) := by
  intro depth
  unfold itemsLayer
  cases schema.get? node.tag with
  | none => exact .defect _ .nil
  | some descriptor =>
    dsimp only
    rw [Nat.add_right_comm]
    refine .line _ (by omega) rfl (.append ?_ ?_)
    · exact .flatMap fun field _ => field.deeper_items node (depth + 1)
    · exact .flatMap fun field _ =>
        field.deeper_items (fun child hchild => h child (Layer.mem_nodes hchild)) (depth + 1)

lemma Schema.shifts_listing (schema : Schema) (node : Option Node) :
    Listing.Shifts more (schema.listing node) := by
  apply Listing.shifts_optional
  intro listing hlisting
  obtain ⟨tree, -, rfl⟩ := Option.map_eq_some_iff.1 hlisting
  exact Node.fold_induct (fun layer h => schema.shifts_itemsLayer h) tree

end Listings

namespace Item

variable {more : Nat} {items deeper : List Item}

lemma Deeper.outcome_eq (h : Deeper more items deeper) : outcome deeper = outcome items := by
  induction h with
  | nil => rfl
  | line _ _ _ _ ih => exact ih
  | defect => rfl

lemma Deeper.renderAll_eq (h : Deeper more items deeper)
    (hunbroken : ∀ item ∈ items, item.Unbroken) :
    Line.renderAll (leading deeper) = spaced (2 * more) (Line.renderAll (leading items)) := by
  induction h with
  | nil => rfl
  | line text hpos hsum _ ih =>
    obtain ⟨hfirst, hrest⟩ := List.forall_mem_cons.1 hunbroken
    rw [leading, leading, Line.renderAll, Line.renderAll, ih hrest, spaced_append,
      spaced_render hfirst hpos, hsum]
  | defect => rfl

end Item

namespace Schema

variable {schema : Schema}

lemma outcome_add (schema : Schema) (node : Option Node) (depth more : Nat) :
    schema.outcome node (depth + more) = schema.outcome node depth :=
  (schema.shifts_listing node depth).outcome_eq

lemma leadingText_add (hschema : schema.OneLine) {node : Option Node}
    (hnode : ∀ tree ∈ node, tree.Unbroken schema) (depth more : Nat) :
    schema.leadingText node (depth + more) = spaced (2 * more) (schema.leadingText node depth) :=
  (schema.shifts_listing node depth).renderAll_eq (unbroken_listing hschema hnode depth)

/-- A tree that is printed some steps deeper ends with the same result, and what is written has two
spaces for each step behind each line feed and is the same elsewhere. -/
theorem runOn_printNode_add (hschema : schema.OneLine) {node : Option Node}
    (hnode : ∀ tree ∈ node, tree.Unbroken schema) (depth more : Nat) {sink : Sink}
    (hroom : sink.room = none) :
    ∃ result text, (schema.printNode node depth).runOn sink = (result, sink.take text) ∧
      (schema.printNode node (depth + more)).runOn sink =
        (result, sink.take (spaced (2 * more) text)) := by
  refine ⟨schema.outcome node depth, schema.leadingText node depth,
    runOn_printNode_of_fits (Sink.fits_of_room_eq_none hroom _), ?_⟩
  rw [runOn_printNode_of_fits (Sink.fits_of_room_eq_none hroom _), leadingText_add hschema hnode,
    outcome_add]

end Schema

def drawerSchema : Schema :=
  ⟨[⟨"Drawer", [⟨.identifier, "label", .single⟩], [⟨"parts", .dict⟩]⟩]⟩

def drawer (label : String) (parts : List (String × Node)) : Node :=
  .mk ⟨"Drawer", ⟨[("label", .single (.identifier label))]⟩, ⟨[("parts", .dict ⟨parts⟩)]⟩⟩

/-- A part whose tag is not registered. -/
def screw : Node := .mk ⟨"Screw", .empty, .empty⟩

lemma unbroken_screw : screw.Unbroken drawerSchema :=
  .mk _ (fun _ h => nomatch h) (fun _ h => nomatch h) fun _ h => nomatch h

lemma unbroken_drawer {label : String} {parts : List (String × Node)} (hlabel : OneLine label)
    (hparts : ∀ part ∈ parts, OneLine part.1 ∧ part.2.Unbroken drawerSchema) :
    (drawer label parts).Unbroken drawerSchema := by
  constructor
  · intro descriptor hdescriptor field hfield name hname
    obtain rfl := Option.some.inj hdescriptor
    obtain rfl := List.mem_singleton.1 hfield
    obtain rfl : name = label := by
      simpa [Layer.scalarsIn, Table.get?, ScalarSlot.toList] using hname
    exact hlabel
  · intro descriptor hdescriptor field hfield key hkey
    obtain rfl := Option.some.inj hdescriptor
    obtain rfl := List.mem_singleton.1 hfield
    obtain ⟨part, hpart, rfl⟩ := List.mem_map.1 hkey
    exact (hparts part hpart).1
  · intro descriptor hdescriptor field hfield child hchild
    obtain rfl := Option.some.inj hdescriptor
    obtain rfl := List.mem_singleton.1 hfield
    obtain ⟨part, hpart, rfl⟩ := List.mem_map.1 hchild
    exact (hparts part hpart).2

/-- Where the dump ends midway, at the part behind the key, it ends there at both depths. -/
theorem runOn_printNode_drawer :
    (drawerSchema.printNode (some (drawer "a" [("b", screw)])) 1).runOn (.new none false) =
        (.error (.dispatchMismatch "Screw"), (Sink.new none false).take
          "\n  Drawer:\n    label: a\n    Dict[1]:\n      [b]:") ∧
      (drawerSchema.printNode (some (drawer "a" [("b", screw)])) (1 + 3)).runOn
          (.new none false) =
        (.error (.dispatchMismatch "Screw"), (Sink.new none false).take
          "\n        Drawer:\n          label: a\n          Dict[1]:\n            [b]:") := by
  have hnode : ∀ tree ∈ some (drawer "a" [("b", screw)]), tree.Unbroken drawerSchema := by
    intro tree htree
    obtain rfl := Option.some.inj htree
    apply unbroken_drawer (by decide)
    intro part hpart
    obtain rfl := List.mem_singleton.1 hpart
    exact ⟨by decide, unbroken_screw⟩
  obtain ⟨result, text, hrun, hdeeper⟩ := Schema.runOn_printNode_add
    (by unfold Schema.OneLine; decide) hnode 1 3 (rfl : (Sink.new none false).room = none)
  have hupper : (drawerSchema.printNode (some (drawer "a" [("b", screw)])) 1).runOn
      (.new none false) = (.error (.dispatchMismatch "Screw"), (Sink.new none false).take
        "\n  Drawer:\n    label: a\n    Dict[1]:\n      [b]:") := by
    have htext : drawerSchema.leadingText (some (drawer "a" [("b", screw)])) 1 =
        "\n  Drawer:\n    label: a\n    Dict[1]:\n      [b]:" := by
      decide +kernel
    rw [Schema.runOn_printNode_of_fits (Sink.fits_of_room_eq_none rfl _), htext]
    rfl
  obtain ⟨hresult, hsink⟩ := Prod.mk.inj (hrun.symm.trans hupper)
  obtain rfl := Sink.take_bytes_injective (congrArg Sink.bytes hsink)
  refine ⟨hupper, hdeeper.trans ?_⟩
  rw [hresult]
  refine congrArg (fun text => (_, (Sink.new none false).take text)) ?_
  decide +kernel

end TreeDump
