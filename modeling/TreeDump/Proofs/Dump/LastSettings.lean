import TreeDump.Proofs.Dump.Declared
import TreeDump.Proofs.Tree.Building

/-!
# What a dump shows of a built node

Of the settings that a node is built from, a dump shows the last one for each declared field. Trees
that agree in these, with children that agree in the same way, are told apart by no dump: not by
what is written and not by how it ends, also if it fails.
-/

namespace TreeDump

open FieldSetting

def Descriptor.keys (descriptor : Descriptor) : List FieldKey :=
  descriptor.scalars.map (fun field => .scalar field.name) ++
    descriptor.children.map fun field => .child field.name

/-- A field is declared for the nodes of a tag. -/
def Schema.Declares (schema : Schema) (tag : String) (key : FieldKey) : Prop :=
  ∃ descriptor ∈ schema.get? tag, key ∈ descriptor.keys

/-- What a child field holds apart from the children: its cardinality, their number and keys. -/
def ChildSlot.outline {ν : Type} (slot : ChildSlot ν) : ChildSlot Unit :=
  slot.mapChildren fun _ => ()

/-- Two trees are alike if they are built for the same tag and the last settings for each declared
field are the same: equal for a scalar, of the same outline and with alike children for a child. -/
inductive Node.Alike (schema : Schema) : Node → Node → Prop where
  | build {tag : String} {settings others : List FieldSetting}
      (scalars : ∀ name, schema.Declares tag (.scalar name) →
        last? (.scalar name) settings = last? (.scalar name) others)
      (outlines : ∀ name, schema.Declares tag (.child name) →
        (lastSlot? name settings).map ChildSlot.outline =
          (lastSlot? name others).map ChildSlot.outline)
      (children : ∀ name, schema.Declares tag (.child name) →
        ∀ slot ∈ lastSlot? name settings, ∀ other ∈ lastSlot? name others,
          ∀ pair ∈ slot.toList.zip other.toList, Alike schema pair.1 pair.2) :
      Alike schema (.build tag settings) (.build tag others)

/-- Two trees are printed with the same bytes and the same result, at all depths and on all sinks. -/
def Node.PrintsAs (schema : Schema) (node other : Node) : Prop :=
  ∀ (depth : Nat) (sink : Sink),
    (schema.printNode (some node) depth).runOn sink =
      (schema.printNode (some other) depth).runOn sink

lemma map_eq_map_of_zip {α β : Type} {f : α → β} {elements others : List α}
    (hlength : elements.length = others.length)
    (h : ∀ pair ∈ elements.zip others, f pair.1 = f pair.2) : elements.map f = others.map f := by
  have hpairs : List.Forall₂ (fun element other => f other = f element) elements others :=
    List.forall₂_iff_zip.2 ⟨hlength, fun hmem => (h _ hmem).symm⟩
  exact (map_eq_map_of_forall₂ hpairs).symm

lemma ChildSlot.mapChildren_eq_of_outline {ν ρ : Type} {f : ν → ρ} {slot other : ChildSlot ν}
    (houtline : slot.outline = other.outline)
    (h : ∀ pair ∈ slot.toList.zip other.toList, f pair.1 = f pair.2) :
    slot.mapChildren f = other.mapChildren f := by
  rcases slot with child | items | ⟨⟨entries⟩⟩ <;>
    rcases other with child' | items' | ⟨⟨entries'⟩⟩ <;>
    simp only [outline, mapChildren, Table.map, reduceCtorEq, single.injEq, list.injEq, dict.injEq,
      Table.mk.injEq] at houtline ⊢
  · cases child <;> cases child' <;> simp_all [toList]
  · have hlength : items.length = items'.length := by
      simpa using congrArg List.length houtline
    exact map_eq_map_of_zip hlength h
  · have hkeys : entries.map Prod.fst = entries'.map Prod.fst := by
      simpa [Function.comp_def] using congrArg (List.map Prod.fst) houtline
    have hlength : (entries.map Prod.snd).length = (entries'.map Prod.snd).length := by
      simpa using congrArg List.length hkeys
    have hvalues := map_eq_map_of_zip hlength h
    rw [List.map_map, List.map_map] at hvalues
    have hentries : ∀ entries : List (String × ν), (entries.map fun entry => (entry.1, f entry.2)) =
        (entries.map Prod.fst).zip (entries.map (f ∘ Prod.snd)) := fun _ => List.zip_map'.symm
    rw [hentries, hentries, hkeys, hvalues]

lemma ChildSlot.map_mapChildren_eq_of_outline {ν ρ : Type} {f : ν → ρ}
    {slot? other? : Option (ChildSlot ν)}
    (houtline : slot?.map ChildSlot.outline = other?.map ChildSlot.outline)
    (h : ∀ slot ∈ slot?, ∀ other ∈ other?,
      ∀ pair ∈ slot.toList.zip other.toList, f pair.1 = f pair.2) :
    slot?.map (·.mapChildren f) = other?.map (·.mapChildren f) := by
  cases hslot : slot? with
  | none =>
    rw [hslot, Option.map_none, eq_comm, Option.map_eq_none_iff] at houtline
    rw [houtline]
  | some slot =>
    rw [hslot, Option.map_some, eq_comm, Option.map_eq_some_iff] at houtline
    obtain ⟨other, hother, houtline⟩ := houtline
    rw [hother, Option.map_some, Option.map_some]
    exact congrArg some (mapChildren_eq_of_outline houtline.symm (h slot hslot other hother))

namespace Schema

variable {schema : Schema} {tag : String} {settings others : List FieldSetting}

/-- Built nodes are listed alike if the last settings for each declared field are the same, with
children that are listed alike. -/
lemma fold_build_congr
    (hscalars : ∀ name, schema.Declares tag (.scalar name) →
      last? (.scalar name) settings = last? (.scalar name) others)
    (houtlines : ∀ name, schema.Declares tag (.child name) →
      (lastSlot? name settings).map ChildSlot.outline =
        (lastSlot? name others).map ChildSlot.outline)
    (hchildren : ∀ name, schema.Declares tag (.child name) →
      ∀ slot ∈ lastSlot? name settings, ∀ other ∈ lastSlot? name others,
        ∀ pair ∈ slot.toList.zip other.toList,
          Node.fold schema.itemsLayer pair.1 = Node.fold schema.itemsLayer pair.2) :
    Node.fold schema.itemsLayer (.build tag settings) =
      Node.fold schema.itemsLayer (.build tag others) := by
  have hlayer : ∀ settings, Node.build tag settings = .mk (Node.build tag settings).layer :=
    fun _ => rfl
  rw [hlayer settings, hlayer others, Node.fold_mk, Node.fold_mk]
  apply itemsLayer_congr
  · rw [Layer.tag_mapChildren, Layer.tag_mapChildren, Node.tag_build, Node.tag_build]
  · rw [Layer.tag_mapChildren, Node.tag_build]
    intro descriptor hdescriptor field hfield
    have hdeclared : schema.Declares tag (.scalar field.name) :=
      ⟨descriptor, hdescriptor, List.mem_append_left _ (List.mem_map_of_mem hfield)⟩
    rw [Layer.scalars_mapChildren, Layer.scalars_mapChildren, Node.get?_scalars_build,
      Node.get?_scalars_build, hscalars _ hdeclared]
  · rw [Layer.tag_mapChildren, Node.tag_build]
    intro descriptor hdescriptor field hfield
    have hdeclared : schema.Declares tag (.child field.name) :=
      ⟨descriptor, hdescriptor, List.mem_append_right _ (List.mem_map_of_mem hfield)⟩
    rw [Layer.get?_mapChildren, Layer.get?_mapChildren, Node.get?_children_build,
      Node.get?_children_build]
    exact ChildSlot.map_mapChildren_eq_of_outline (houtlines _ hdeclared) (hchildren _ hdeclared)

end Schema

namespace Node

variable {schema : Schema} {node other : Node}

lemma Alike.fold_eq (h : Alike schema node other) :
    fold schema.itemsLayer node = fold schema.itemsLayer other := by
  induction h with
  | build scalars outlines _ ih => exact schema.fold_build_congr scalars outlines ih

lemma printsAs_of_fold_eq
    (h : fold schema.itemsLayer node = fold schema.itemsLayer other) : PrintsAs schema node other := by
  intro depth sink
  rw [schema.printNode_eq_perform, schema.printNode_eq_perform]
  unfold Schema.listing
  rw [Option.map_some, Option.map_some, h]

/-- Built nodes with the same last setting for each declared field are printed the same. -/
lemma printsAs_build {tag : String} {settings others : List FieldSetting}
    (h : ∀ key, schema.Declares tag key → last? key settings = last? key others) :
    PrintsAs schema (build tag settings) (build tag others) := by
  have hslot : ∀ name, schema.Declares tag (.child name) →
      lastSlot? name settings = lastSlot? name others := by
    intro name hdeclared
    rw [lastSlot?, lastSlot?, h _ hdeclared]
  apply printsAs_of_fold_eq
  apply schema.fold_build_congr
  · exact fun name hdeclared => h _ hdeclared
  · intro name hdeclared
    rw [hslot name hdeclared]
  · intro name hdeclared slot hmem found hfound pair hpair
    rw [hslot name hdeclared, hfound] at hmem
    obtain rfl := Option.some.inj hmem
    have hsame : List.Forall₂ (fun child other => fold schema.itemsLayer child =
        fold schema.itemsLayer other) found.toList found.toList :=
      List.forall₂_same.2 fun _ _ => rfl
    exact List.forall₂_zip hsame hpair

end Node

/-- A dump shows no more of a tree than the tags and the last setting for each declared field: alike
trees are printed the same. So what is invisible in a node is the order of settings for different
fields, among which are a scalar and a child of one name, further a setting with a later one for the
same field, of whatever cardinality, and one for a field that is not declared. -/
theorem Schema.printsAs_of_alike (schema : Schema) :
    (∀ node other, Node.Alike schema node other → Node.PrintsAs schema node other) ∧
      (∀ tag settings others, (∀ key, ofKey key settings = ofKey key others) →
        Node.PrintsAs schema (.build tag settings) (.build tag others)) ∧
      (∀ tag front setting back, (∃ later ∈ back, later.key = setting.key) →
        Node.PrintsAs schema (.build tag (front ++ setting :: back)) (.build tag (front ++ back))) ∧
      ∀ tag front setting back, ¬ schema.Declares tag setting.key →
        Node.PrintsAs schema (.build tag (front ++ setting :: back)) (.build tag (front ++ back)) := by
  refine ⟨fun node other h => Node.printsAs_of_fold_eq h.fold_eq, ?_, ?_, ?_⟩
  · intro tag settings others h
    apply Node.printsAs_build
    intro key _
    rw [last?, last?, h]
  · rintro tag front setting back ⟨later, hmem, hkey⟩
    apply Node.printsAs_build
    intro key _
    by_cases hown : setting.key = key
    · have hlater := hkey.trans hown
      rw [last?_append_of_mem (List.mem_cons_of_mem _ hmem) hlater,
        last?_append_of_mem hmem hlater, ← List.singleton_append, last?_append_of_mem hmem hlater]
    · rw [last?, last?, ofKey_append, ofKey_append, ofKey_cons_of_ne hown]
  · intro tag front setting back hundeclared
    apply Node.printsAs_build
    intro key hdeclared
    have hown : setting.key ≠ key := fun h => hundeclared (h ▸ hdeclared)
    rw [last?, last?, ofKey_append, ofKey_append, ofKey_cons_of_ne hown]

def ownerSchema : Schema := ⟨[⟨"Owner", [⟨.int, "size", .single⟩], [⟨"next", .single⟩]⟩]⟩

/-- Also where the next node has no next node set, so that printing fails there. -/
theorem Schema.printsAs_owner :
    Node.PrintsAs ownerSchema
      (.build "Owner" [.scalars "size" [], .scalar "size" (.int 1),
        .child "next" (some (.build "Owner" [.scalar "size" (.int 2)]))])
      (.build "Owner" [.child "size" none,
        .child "next" (some (.build "Owner" [.scalar "size" (.int 2), .scalar "unused" (.int 0)])),
        .scalar "size" (.int 1)]) := by
  have hscalar : ∀ name, ownerSchema.Declares "Owner" (.scalar name) → name = "size" := by
    simp [Schema.Declares, Schema.get?, Descriptor.keys, ownerSchema]
  have hchild : ∀ name, ownerSchema.Declares "Owner" (.child name) → name = "next" := by
    simp [Schema.Declares, Schema.get?, Descriptor.keys, ownerSchema]
  apply (Schema.printsAs_of_alike _).1
  constructor
  · intro name hname
    rw [hscalar name hname]
    rfl
  · intro name hname
    rw [hchild name hname]
    rfl
  · intro name hname slot hslot other hother pair hpair
    rw [hchild name hname] at hslot hother
    cases hslot
    cases hother
    rw [ChildSlot.toList, ChildSlot.toList, Option.toList_some, Option.toList_some,
      List.zip_cons_cons, List.zip_nil_left, List.mem_singleton] at hpair
    subst hpair
    constructor
    · intro name hname
      rw [hscalar name hname]
      rfl
    · intro name hname
      rw [hchild name hname]
      rfl
    · intro name hname slot hslot
      rw [hchild name hname] at hslot
      cases hslot

end TreeDump
