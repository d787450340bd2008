import TreeDump.Proofs.Schema.Rows

/-!
# Rows that are written for descriptors

A field is written as its name behind the mark of its cardinality. A single field has no mark, so
its name is read back unless it begins with a mark itself. So a descriptor has a row exactly if no
name of a single field begins with a mark that is read for such fields, and then it has no other
row.
-/

namespace TreeDump

namespace ScalarField

/-- The name of a field behind its mark. -/
def marked (field : ScalarField) : String :=
  match field.cardinality with
  | .single => field.name
  | .list => "[" ++ field.name

/-- The name of a single field does not begin with a mark. -/
def Unmarked (field : ScalarField) : Prop :=
  field.cardinality = .single → field.name.toList.head? ≠ some '['

end ScalarField

namespace ChildField

/-- The name of a field behind its mark. -/
def marked (field : ChildField) : String :=
  match field.cardinality with
  | .single => field.name
  | .list => "[" ++ field.name
  | .dict => "(" ++ field.name

/-- The name of a single field does not begin with a mark. -/
def Unmarked (field : ChildField) : Prop :=
  field.cardinality = .single →
    field.name.toList.head? ≠ some '[' ∧ field.name.toList.head? ≠ some '('

end ChildField

namespace Descriptor

/-- The row that is written for a descriptor. -/
def row (descriptor : Descriptor) : NodeSpec where
  name := descriptor.name
  scalars := descriptor.scalars.map fun field => (field.type.name, field.marked)
  children := descriptor.children.map ChildField.marked

/-- No name of a single field begins with a mark. -/
def Unmarked (descriptor : Descriptor) : Prop :=
  (∀ field ∈ descriptor.scalars, field.Unmarked) ∧ ∀ field ∈ descriptor.children, field.Unmarked

end Descriptor

namespace NodeSpec

section Marks

variable (marks : List Char) (name marked : String)

/-- What is read behind a mark is what was written behind it, also if that begins with a mark. -/
lemma eq_append_iff {marks : List Char} {mark : Char} {front : String}
    (hfront : front.toList = [mark]) (hmark : mark ∈ marks) :
    marked.toList.head? = some mark ∧ name = unmarked marks marked ↔ marked = front ++ name := by
  have hspelled : marked = front ++ name ↔ marked.toList = mark :: name.toList := by
    rw [← String.toList_inj, String.toList_append, hfront, List.singleton_append]
  rw [hspelled]
  unfold unmarked
  cases hmarked : marked.toList with
  | nil => simp
  | cons first rest =>
    rw [List.head?_cons, Option.some.injEq, List.cons.injEq]
    refine and_congr_right fun hfirst => ?_
    subst hfirst
    dsimp only
    rw [if_pos hmark, ← String.toList_inj, String.toList_ofList, eq_comm]

/-- A name that does not begin with a mark is read as it is. -/
lemma eq_of_head?_iff :
    (∀ mark ∈ marks, marked.toList.head? ≠ some mark) ∧ name = unmarked marks marked ↔
      (∀ mark ∈ marks, name.toList.head? ≠ some mark) ∧ marked = name := by
  have hread : ∀ text : String, (∀ mark ∈ marks, text.toList.head? ≠ some mark) →
      unmarked marks text = text := by
    intro text h
    unfold unmarked
    cases htext : text.toList with
    | nil => rfl
    | cons first rest =>
      rw [htext] at h
      exact if_neg fun hmem => h first hmem rfl
  constructor
  · rintro ⟨hmarked, rfl⟩
    rw [hread marked hmarked]
    exact ⟨hmarked, rfl⟩
  · rintro ⟨hname, rfl⟩
    exact ⟨hname, (hread marked hname).symm⟩

end Marks

lemma describesScalar_iff {entry : String × String} {field : ScalarField} :
    DescribesScalar entry field ↔ field.Unmarked ∧ entry = (field.type.name, field.marked) := by
  have hopen : "[".toList = ['['] := by decide
  have hfields : DescribesScalar entry field ↔
      ((field.cardinality = .list ↔ entry.2.toList.head? = some '[') ∧
        field.name = unmarked ['['] entry.2) ∧ entry.1 = field.type.name :=
    ⟨fun h => ⟨⟨h.list, h.name⟩, h.type.symm⟩, fun h => ⟨h.2.symm, h.1.2, h.1.1⟩⟩
  obtain ⟨type, name, cardinality⟩ := field
  obtain ⟨typeName, marked⟩ := entry
  rw [hfields, Prod.mk.injEq, and_comm (a := typeName = _), ← and_assoc]
  refine and_congr_left fun _ => ?_
  unfold ScalarField.Unmarked ScalarField.marked
  cases cardinality with
  | single => simpa using eq_of_head?_iff ['['] name marked
  | list => simpa using eq_append_iff name marked hopen (List.mem_singleton_self _)

lemma describesChild_iff {marked : String} {field : ChildField} :
    DescribesChild marked field ↔ field.Unmarked ∧ marked = field.marked := by
  have hopen : "[".toList = ['['] := by decide
  have hparen : "(".toList = ['('] := by decide
  have hfields : DescribesChild marked field ↔
      ((field.cardinality = .list ↔ marked.toList.head? = some '[') ∧
        (field.cardinality = .dict ↔ marked.toList.head? = some '(')) ∧
          field.name = unmarked ['[', '('] marked :=
    ⟨fun h => ⟨⟨h.list, h.dict⟩, h.name⟩, fun h => ⟨h.2, h.1.1, h.1.2⟩⟩
  obtain ⟨name, cardinality⟩ := field
  rw [hfields]
  unfold ChildField.Unmarked ChildField.marked
  cases cardinality with
  | single =>
    simpa using eq_of_head?_iff ['[', '('] name marked
  | list =>
    have hmem : '[' ∈ ['[', '('] := by simp
    have hname := eq_append_iff name marked hopen hmem
    dsimp only
    rw [← hname]
    grind
  | dict =>
    have hmem : '(' ∈ ['[', '('] := by simp
    have hname := eq_append_iff name marked hparen hmem
    dsimp only
    rw [← hname]
    grind

lemma forall₂_eq_map_iff {α β : Type} {P : β → Prop} {f : β → α} {elements : List α}
    {values : List β} :
    List.Forall₂ (fun element value => P value ∧ element = f value) elements values ↔
      (∀ value ∈ values, P value) ∧ elements = values.map f := by
  induction values generalizing elements with
  | nil => simp
  | cons value values ih =>
    cases elements with
    | nil => simp
    | cons element elements =>
      rw [List.forall₂_cons, ih, List.forall_mem_cons, List.map_cons, List.cons.injEq]
      tauto

/-- A row describes a descriptor exactly if it is the one that is written for it and no name of a
single field begins with a mark. -/
theorem describes_iff {spec : NodeSpec} {descriptor : Descriptor} :
    spec.Describes descriptor ↔ descriptor.Unmarked ∧ spec = descriptor.row := by
  obtain ⟨name, scalars, children⟩ := spec
  have hfields : Describes ⟨name, scalars, children⟩ descriptor ↔ descriptor.name = name ∧
      List.Forall₂ DescribesScalar scalars descriptor.scalars ∧
        List.Forall₂ DescribesChild children descriptor.children :=
    ⟨fun h => ⟨h.name, h.scalars, h.children⟩, fun h => ⟨h.1, h.2.1, h.2.2⟩⟩
  have hscalars : DescribesScalar = fun entry field =>
      field.Unmarked ∧ entry = (field.type.name, field.marked) := by
    funext entry field
    exact propext describesScalar_iff
  have hchildren : DescribesChild = fun marked field => field.Unmarked ∧ marked = field.marked := by
    funext marked field
    exact propext describesChild_iff
  rw [hfields, hscalars, hchildren, forall₂_eq_map_iff, forall₂_eq_map_iff, Descriptor.Unmarked,
    Descriptor.row, NodeSpec.mk.injEq]
  tauto

/-- The notation of rows is unambiguous: rows that are read as the same descriptor are the same. A
descriptor has a row exactly if no name of a single field begins with a mark, which is `[`, and for
a child also `(`. One mark is read and no other one behind it, and `(` belongs to the name of a
scalar. -/
theorem descriptor_unambiguous :
    (∀ (spec other : NodeSpec) (descriptor : Descriptor),
        spec.descriptor = .ok descriptor → other.descriptor = .ok descriptor → spec = other) ∧
      (∀ descriptor : Descriptor, (∃ spec : NodeSpec, spec.descriptor = .ok descriptor) ↔
        (∀ field ∈ descriptor.scalars, field.cardinality = .single →
            field.name.toList.head? ≠ some '[') ∧
          ∀ field ∈ descriptor.children, field.cardinality = .single →
            field.name.toList.head? ≠ some '[' ∧ field.name.toList.head? ≠ some '(') ∧
      (∀ (node : String) (type : FieldType) (name : String),
        scalarField node (type.name, "[" ++ name) = .ok ⟨type, name, .list⟩ ∧
          scalarField node (type.name, "(" ++ name) = .ok ⟨type, "(" ++ name, .single⟩) ∧
      ∀ name : String, ChildField.ofMarked ("[" ++ name) = ⟨name, .list⟩ ∧
        ChildField.ofMarked ("(" ++ name) = ⟨name, .dict⟩ := by
  refine ⟨?_, ?_, ?_, ?_⟩
  · intro spec other descriptor hspec hother
    rw [descriptor_eq_ok_iff, describes_iff] at hspec hother
    rw [hspec.2, hother.2]
  · intro descriptor
    simp only [descriptor_eq_ok_iff, describes_iff, exists_and_left, exists_eq, and_true]
    rfl
  · intro node type name
    simp only [scalarField_eq_ok_iff, describesScalar_iff]
    refine ⟨⟨fun h => (nomatch h), rfl⟩, fun _ => ?_, rfl⟩
    simp
  · intro name
    simp only [ofMarked_eq_iff, describesChild_iff]
    exact ⟨⟨fun h => (nomatch h), rfl⟩, fun h => (nomatch h), rfl⟩

/-- A row with marks behind marks, with names that are empty, and with a scalar behind what is a
mark of children. -/
def marksSpec : NodeSpec where
  name := "Marks"
  scalars := [("TInt", "[[a"), ("TInt", "[(a"), ("Bool", "(a"), ("Bool", "")]
  children := ["([b", "[(b", "((b", "[", "b"]

def marksDescriptor : Descriptor where
  name := "Marks"
  scalars :=
    [⟨.int, "[a", .list⟩, ⟨.int, "(a", .list⟩, ⟨.bool, "(a", .single⟩, ⟨.bool, "", .single⟩]
  children := [⟨"[b", .dict⟩, ⟨"(b", .list⟩, ⟨"(b", .dict⟩, ⟨"", .list⟩, ⟨"b", .single⟩]

theorem marksSpec_eq_row :
    marksSpec.descriptor = .ok marksDescriptor ∧
      marksDescriptor.row.descriptor = .ok marksDescriptor ∧ marksSpec = marksDescriptor.row := by
  have hread : marksSpec.descriptor = .ok marksDescriptor := by rfl
  have hwritten : marksDescriptor.row.descriptor = .ok marksDescriptor := by rfl
  exact ⟨hread, hwritten, descriptor_unambiguous.1 _ _ _ hread hwritten⟩

end NodeSpec

end TreeDump
