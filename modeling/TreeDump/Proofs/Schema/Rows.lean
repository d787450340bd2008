import TreeDump.Schema.NodeSpec
import TreeDump.Proofs.Tree.Reading

/-!
# What rows of descriptor tables stand for

A row describes a descriptor: the same name, and for each marked name in it a field of the name
without the mark, in the cardinality that the mark gives. It describes one if all its types are in
the catalog, and else the first type that is not there is reported.
-/

namespace TreeDump

/-- The names of the types in the catalog. -/
def FieldType.names : List String := all.map name

namespace NodeSpec

/-- A name without its first character, if that is one of the marks. -/
def unmarked (marks : List Char) (marked : String) : String :=
  match marked.toList with
  | [] => marked
  | mark :: name => if mark ∈ marks then String.ofList name else marked

/-- The names of a row's fields, scalars before children, without one mark each. -/
def fieldNames (spec : NodeSpec) : List String :=
  spec.scalars.map (fun entry => unmarked ['['] entry.2) ++ spec.children.map (unmarked ['[', '('])

/-- All scalar types of a row are in the catalog. -/
def Typed (spec : NodeSpec) : Prop := ∀ entry ∈ spec.scalars, entry.1 ∈ FieldType.names

/-- A type name and a marked name describe a scalar field. -/
structure DescribesScalar (entry : String × String) (field : ScalarField) : Prop where
  type : field.type.name = entry.1
  name : field.name = unmarked ['['] entry.2
  list : field.cardinality = .list ↔ entry.2.toList.head? = some '['

/-- A marked name describes a child field. -/
structure DescribesChild (marked : String) (field : ChildField) : Prop where
  name : field.name = unmarked ['[', '('] marked
  list : field.cardinality = .list ↔ marked.toList.head? = some '['
  dict : field.cardinality = .dict ↔ marked.toList.head? = some '('

/-- A row describes a descriptor. -/
structure Describes (spec : NodeSpec) (descriptor : Descriptor) : Prop where
  name : descriptor.name = spec.name
  scalars : List.Forall₂ DescribesScalar spec.scalars descriptor.scalars
  children : List.Forall₂ DescribesChild spec.children descriptor.children

lemma ofMarked_scalar (marked : String) :
    (ScalarCardinality.ofMarked marked).2 = unmarked ['['] marked ∧
      ((ScalarCardinality.ofMarked marked).1 = .list ↔ marked.toList.head? = some '[') := by
  unfold ScalarCardinality.ofMarked unmarked
  rcases marked.toList with _ | ⟨mark, name⟩
  · simp
  · by_cases hmark : mark = '['
    · subst hmark
      simp
    · simp [hmark]

lemma describesChild_ofMarked (marked : String) : DescribesChild marked (.ofMarked marked) := by
  have h : (ChildField.ofMarked marked).name = unmarked ['[', '('] marked ∧
      ((ChildField.ofMarked marked).cardinality = .list ↔ marked.toList.head? = some '[') ∧
      ((ChildField.ofMarked marked).cardinality = .dict ↔ marked.toList.head? = some '(') := by
    unfold ChildField.ofMarked unmarked
    rcases marked.toList with _ | ⟨mark, name⟩
    · simp
    · by_cases hlist : mark = '['
      · subst hlist
        simp
      · by_cases hdict : mark = '('
        · subst hdict
          simp
        · simp [hlist, hdict]
  exact ⟨h.1, h.2.1, h.2.2⟩

lemma DescribesScalar.unique {entry : String × String} {field other : ScalarField}
    (h : DescribesScalar entry field) (hother : DescribesScalar entry other) : field = other := by
  have htype : field.type = other.type := by
    have hname := FieldType.ofName?_eq_some_iff.2 (h.type.trans hother.type.symm).symm
    rw [FieldType.ofName?_name] at hname
    exact (Option.some.inj hname).symm
  have hlist := h.list.trans hother.list.symm
  obtain ⟨type, name, cardinality⟩ := field
  obtain ⟨type', name', cardinality'⟩ := other
  have hname : name = name' := h.name.trans hother.name.symm
  cases cardinality <;> cases cardinality' <;> simp_all

lemma DescribesChild.unique {marked : String} {field other : ChildField}
    (h : DescribesChild marked field) (hother : DescribesChild marked other) : field = other := by
  have hlist := h.list.trans hother.list.symm
  have hdict := h.dict.trans hother.dict.symm
  obtain ⟨name, cardinality⟩ := field
  obtain ⟨name', cardinality'⟩ := other
  have hname : name = name' := h.name.trans hother.name.symm
  cases cardinality <;> cases cardinality' <;> simp_all

lemma ofMarked_eq_iff {marked : String} {field : ChildField} :
    ChildField.ofMarked marked = field ↔ DescribesChild marked field :=
  ⟨fun h => h ▸ describesChild_ofMarked marked, fun h => (describesChild_ofMarked marked).unique h⟩

lemma mem_names_iff {name : String} :
    name ∈ FieldType.names ↔ ∃ type, FieldType.ofName? name = some type := by
  simp only [FieldType.names, List.mem_map, FieldType.ofName?_eq_some_iff]
  constructor
  · rintro ⟨type, -, rfl⟩
    exact ⟨type, rfl⟩
  · rintro ⟨type, rfl⟩
    exact ⟨type, type.mem_all, rfl⟩

section ScalarField

variable {node : String} {entry : String × String}

lemma scalarField_cases (node : String) (entry : String × String) :
    (entry.1 ∈ FieldType.names ∧
        ∃ field, DescribesScalar entry field ∧ scalarField node entry = .ok field) ∨
      entry.1 ∉ FieldType.names ∧ scalarField node entry =
        .error (.unknownFieldType node (unmarked ['['] entry.2) entry.1) := by
  obtain ⟨hname, hlist⟩ := ofMarked_scalar entry.2
  unfold scalarField
  cases htype : FieldType.ofName? entry.1 with
  | some type =>
    left
    refine ⟨mem_names_iff.2 ⟨type, htype⟩, _, ⟨?_, hname, hlist⟩, rfl⟩
    exact (FieldType.ofName?_eq_some_iff.1 htype).symm
  | none =>
    right
    refine ⟨fun hmem => ?_, by rw [← hname]⟩
    obtain ⟨type, hfound⟩ := mem_names_iff.1 hmem
    rw [htype] at hfound
    cases hfound

lemma scalarField_eq_ok_iff {field : ScalarField} :
    scalarField node entry = .ok field ↔ DescribesScalar entry field := by
  obtain ⟨-, found, hdescribes, hread⟩ | ⟨hunknown, hread⟩ := scalarField_cases node entry
  · rw [hread, Except.ok.injEq]
    exact ⟨fun heq => heq ▸ hdescribes, fun h => hdescribes.unique h⟩
  · rw [hread]
    constructor
    · intro heq
      cases heq
    · intro h
      exact absurd (h.type ▸ List.mem_map_of_mem field.type.mem_all) hunknown

lemma exists_scalarField_iff :
    (∃ field, scalarField node entry = .ok field) ↔ entry.1 ∈ FieldType.names := by
  obtain ⟨hknown, found, -, hread⟩ | ⟨hunknown, hread⟩ := scalarField_cases node entry
  · exact ⟨fun _ => hknown, fun _ => ⟨found, hread⟩⟩
  · rw [hread]
    constructor
    · rintro ⟨field, heq⟩
      cases heq
    · intro hknown
      exact absurd hknown hunknown

lemma scalarField_eq_error_iff {error : SchemaError} :
    scalarField node entry = .error error ↔ entry.1 ∉ FieldType.names ∧
      error = .unknownFieldType node (unmarked ['['] entry.2) entry.1 := by
  obtain ⟨hknown, found, -, hread⟩ | ⟨hunknown, hread⟩ := scalarField_cases node entry
  · rw [hread]
    constructor
    · intro heq
      cases heq
    · rintro ⟨hunknown, -⟩
      exact absurd hknown hunknown
  · rw [hread, Except.error.injEq]
    constructor
    · intro heq
      exact ⟨hunknown, heq.symm⟩
    · rintro ⟨-, heq⟩
      exact heq.symm

end ScalarField

variable {spec : NodeSpec}

/-- A row is read as the descriptor that it describes. -/
theorem descriptor_eq_ok_iff {descriptor : Descriptor} :
    spec.descriptor = .ok descriptor ↔ spec.Describes descriptor := by
  have hchildren : spec.children.map ChildField.ofMarked = descriptor.children ↔
      List.Forall₂ DescribesChild spec.children descriptor.children := by
    rw [← List.forall₂_eq_eq_eq, List.forall₂_map_left_iff]
    simp only [ofMarked_eq_iff]
  rw [NodeSpec.descriptor, bind_eq_ok_iff]
  simp only [mapM_eq_ok_iff, scalarField_eq_ok_iff]
  constructor
  · rintro ⟨scalars, hscalars, heq⟩
    cases heq
    exact ⟨rfl, hscalars, hchildren.1 rfl⟩
  · rintro ⟨hname, hscalars, hbelow⟩
    refine ⟨descriptor.scalars, hscalars, ?_⟩
    rw [hchildren.2 hbelow, ← hname]
    rfl

/-- A row is not read for its first type that is not in the catalog. -/
theorem descriptor_eq_error_iff {error : SchemaError} :
    spec.descriptor = .error error ↔
      ∃ front type field back, spec.scalars = front ++ (type, field) :: back ∧
        (∀ entry ∈ front, entry.1 ∈ FieldType.names) ∧ type ∉ FieldType.names ∧
        error = .unknownFieldType spec.name (unmarked ['['] field) type := by
  have hrest : ∀ scalars : List ScalarField,
      (pure ⟨spec.name, scalars, spec.children.map .ofMarked⟩ : Except SchemaError Descriptor) ≠
        .error error := fun _ heq => by cases heq
  rw [NodeSpec.descriptor, bind_eq_error_iff]
  simp only [hrest, and_false, exists_false, or_false, mapM_eq_error_iff, exists_scalarField_iff,
    scalarField_eq_error_iff, Prod.exists]

lemma exists_describes_iff : (∃ descriptor, spec.Describes descriptor) ↔ spec.Typed := by
  constructor
  · rintro ⟨descriptor, h⟩ entry hentry
    have htypes : descriptor.scalars.map (·.type.name) = spec.scalars.map Prod.fst :=
      map_eq_map_of_forall₂ (h.scalars.imp fun _ _ hfield => hfield.type)
    have hmem : entry.1 ∈ descriptor.scalars.map (·.type.name) := by
      rw [htypes]
      exact List.mem_map_of_mem hentry
    obtain ⟨field, -, hfield⟩ := List.mem_map.1 hmem
    exact hfield ▸ List.mem_map_of_mem field.type.mem_all
  · intro h
    cases hread : spec.descriptor with
    | ok descriptor => exact ⟨descriptor, descriptor_eq_ok_iff.1 hread⟩
    | error error =>
      obtain ⟨front, type, field, back, hscalars, -, hunknown, -⟩ :=
        descriptor_eq_error_iff.1 hread
      exact absurd (h (type, field) (by simp [hscalars])) hunknown

lemma Describes.fieldNames_eq {descriptor : Descriptor} (h : spec.Describes descriptor) :
    descriptor.fieldNames = spec.fieldNames := by
  have hscalars : descriptor.scalars.map ScalarField.name =
      spec.scalars.map fun entry => unmarked ['['] entry.2 :=
    map_eq_map_of_forall₂ (h.scalars.imp fun _ _ hfield => hfield.name)
  have hchildren : descriptor.children.map ChildField.name =
      spec.children.map (unmarked ['[', '(']) :=
    map_eq_map_of_forall₂ (h.children.imp fun _ _ hfield => hfield.name)
  rw [Descriptor.fieldNames, hscalars, hchildren, fieldNames]

end NodeSpec

end TreeDump
