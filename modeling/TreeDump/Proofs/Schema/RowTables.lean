import TreeDump.Proofs.Schema.Rows
import TreeDump.Proofs.Schema.Registration
import Mathlib.Data.List.Induction

/-!
# Which descriptor tables are taken

A table is taken exactly if it is consistent: its types are in the catalog, its names are distinct,
and within each row so are the field names, of which none is empty. Then the schema has one
descriptor for each row, in order. Otherwise the first row that is inconsistent with the rows before
it is reported, and of several defects of that row always the same one.
-/

namespace TreeDump

namespace NodeSpec

/-- Nothing is wrong with a row that comes after rows of the taken names. -/
structure Fits (taken : List String) (spec : NodeSpec) : Prop where
  typed : spec.Typed
  fresh : spec.name ∉ taken
  nonempty : "" ∉ spec.fieldNames
  distinct : spec.fieldNames.Nodup

/-- What is reported of a row that comes after rows of the taken names. A type that is not in the
catalog goes before a name that is taken, and that before the first field name that is empty or
repeats an earlier one. -/
inductive Defect (taken : List String) (spec : NodeSpec) : SchemaError → Prop where
  | unknownType {front : List (String × String)} {type field : String}
      {back : List (String × String)} (scalars : spec.scalars = front ++ (type, field) :: back)
      (known : ∀ entry ∈ front, entry.1 ∈ FieldType.names) (unknown : type ∉ FieldType.names) :
      Defect taken spec (.unknownFieldType spec.name (unmarked ['['] field) type)
  | takenName (typed : spec.Typed) (mem : spec.name ∈ taken) :
      Defect taken spec (.duplicateNode spec.name)
  | emptyField {front back : List String} (typed : spec.Typed) (fresh : spec.name ∉ taken)
      (names : spec.fieldNames = front ++ "" :: back) (nonempty : "" ∉ front)
      (distinct : front.Nodup) :
      Defect taken spec (.emptyFieldName spec.name)
  | repeatedField {front : List String} {name : String} {back : List String} (typed : spec.Typed)
      (fresh : spec.name ∉ taken) (names : spec.fieldNames = front ++ name :: back)
      (nonempty : "" ∉ front) (distinct : front.Nodup) (mem : name ∈ front) :
      Defect taken spec (.duplicateField spec.name name)

/-- Nothing is wrong with a descriptor table. -/
structure Consistent (specs : List NodeSpec) : Prop where
  typed : ∀ spec ∈ specs, spec.Typed
  names : (specs.map NodeSpec.name).Nodup
  nonempty : ∀ spec ∈ specs, "" ∉ spec.fieldNames
  distinct : ∀ spec ∈ specs, spec.fieldNames.Nodup

lemma consistent_nil : Consistent [] :=
  ⟨fun _ h => (nomatch h), List.nodup_nil, fun _ h => (nomatch h), fun _ h => (nomatch h)⟩

lemma consistent_concat_iff {specs : List NodeSpec} {spec : NodeSpec} :
    Consistent (specs ++ [spec]) ↔ Consistent specs ∧ spec.Fits (specs.map NodeSpec.name) := by
  have hnames : ((specs ++ [spec]).map NodeSpec.name).Nodup ↔
      (specs.map NodeSpec.name).Nodup ∧ spec.name ∉ specs.map NodeSpec.name := by
    rw [List.map_append, List.map_singleton, List.nodup_append_comm, List.singleton_append,
      List.nodup_cons, and_comm]
  constructor
  · rintro ⟨htyped, hdistinct, hnonempty, hfields⟩
    simp only [List.forall_mem_append, List.forall_mem_singleton] at htyped hnonempty hfields
    obtain ⟨hbefore, hfresh⟩ := hnames.1 hdistinct
    exact ⟨⟨htyped.1, hbefore, hnonempty.1, hfields.1⟩,
      ⟨htyped.2, hfresh, hnonempty.2, hfields.2⟩⟩
  · rintro ⟨hspecs, hspec⟩
    constructor
    · exact List.forall_mem_append.2 ⟨hspecs.typed, List.forall_mem_singleton.2 hspec.typed⟩
    · exact hnames.2 ⟨hspecs.names, hspec.fresh⟩
    · exact List.forall_mem_append.2 ⟨hspecs.nonempty, List.forall_mem_singleton.2 hspec.nonempty⟩
    · exact List.forall_mem_append.2 ⟨hspecs.distinct, List.forall_mem_singleton.2 hspec.distinct⟩

end NodeSpec

namespace Descriptor

lemma nameDefect?_cons (node : String) (seen : List String) (name : String) (rest : List String) :
    nameDefect? node seen (name :: rest) =
      if name = "" then some (.emptyFieldName node)
      else if name ∈ seen then some (.duplicateField node name)
      else nameDefect? node (name :: seen) rest := rfl

/-- Behind names without a defect the scan goes on, and has seen these. -/
lemma nameDefect?_append {node : String} {seen front : List String}
    (h : nameDefect? node seen front = none) (names : List String) :
    nameDefect? node seen (front ++ names) = nameDefect? node (front.reverse ++ seen) names := by
  induction front generalizing seen with
  | nil => rfl
  | cons name front ih =>
    rw [nameDefect?_cons] at h
    rw [List.cons_append, nameDefect?_cons, List.reverse_cons, List.append_assoc,
      List.singleton_append]
    split at h
    · cases h
    · split at h
      · cases h
      · next hnonempty hunseen => rw [if_neg hnonempty, if_neg hunseen, ih h]

/-- The scan of names ends at the first one that is empty or that it has seen. -/
lemma nameDefect?_eq_some_iff {node : String} {seen names : List String} {error : SchemaError} :
    nameDefect? node seen names = some error ↔
      ∃ front name back, names = front ++ name :: back ∧ nameDefect? node seen front = none ∧
        (name = "" ∧ error = .emptyFieldName node ∨
          name ≠ "" ∧ (name ∈ front ∨ name ∈ seen) ∧ error = .duplicateField node name) := by
  constructor
  · intro h
    induction names generalizing seen with
    | nil => cases h
    | cons first names ih =>
      rw [nameDefect?_cons] at h
      split at h
      · next hempty =>
        exact ⟨[], first, names, rfl, rfl, .inl ⟨hempty, (Option.some.inj h).symm⟩⟩
      · next hnonempty =>
        split at h
        · next hseen =>
          exact ⟨[], first, names, rfl, rfl,
            .inr ⟨hnonempty, .inr hseen, (Option.some.inj h).symm⟩⟩
        · next hunseen =>
          obtain ⟨front, name, back, rfl, hfront, hname⟩ := ih h
          refine ⟨first :: front, name, back, rfl, ?_, ?_⟩
          · rw [nameDefect?_cons, if_neg hnonempty, if_neg hunseen, hfront]
          · rw [List.mem_cons] at hname
            rw [List.mem_cons]
            tauto
  · rintro ⟨front, name, back, rfl, hfront, hname⟩
    rw [nameDefect?_append hfront, nameDefect?_cons]
    obtain ⟨hempty, rfl⟩ | ⟨hnonempty, hmem, rfl⟩ := hname
    · rw [if_pos hempty]
    · rw [if_neg hnonempty, if_pos (by simpa using hmem)]

end Descriptor

namespace Schema

variable {schema extended : Schema} {error : SchemaError}

lemma register_eq_ok_iff {descriptor : Descriptor} :
    schema.register descriptor = .ok extended ↔
      schema.Admits descriptor ∧ extended = ⟨schema.descriptors ++ [descriptor]⟩ := by
  by_cases h : schema.Admits descriptor
  · rw [register_of_admits h, Except.ok.injEq]
    exact ⟨fun heq => ⟨h, heq.symm⟩, fun heq => heq.2.symm⟩
  · obtain ⟨error, herror⟩ := register_of_not_admits h
    rw [herror]
    exact ⟨fun heq => (nomatch heq), fun heq => absurd heq.1 h⟩

lemma register_eq_error_iff {descriptor : Descriptor} :
    schema.register descriptor = .error error ↔
      descriptor.name ∈ schema.names ∧ error = .duplicateNode descriptor.name ∨
        descriptor.name ∉ schema.names ∧ descriptor.defect? = some error := by
  have hfresh : (schema.get? descriptor.name).isSome ↔ descriptor.name ∈ schema.names := by
    rw [← not_iff_not, Bool.not_eq_true, Option.isSome_eq_false_iff, Option.isNone_iff_eq_none,
      get?_eq_none_iff]
  unfold register
  split
  · next h =>
    have hmem := hfresh.1 h
    simp [hmem, eq_comm]
  · next h =>
    have hmem : descriptor.name ∉ schema.names := fun hmem => h (hfresh.2 hmem)
    cases descriptor.defect? <;> simp [hmem]

variable {spec : NodeSpec}

/-- A row is taken exactly if nothing is wrong with it, and then as the descriptor that it
describes. -/
theorem registerSpec_eq_ok_iff :
    schema.registerSpec spec = .ok extended ↔ spec.Fits schema.names ∧
      ∃ descriptor, spec.Describes descriptor ∧
        extended = ⟨schema.descriptors ++ [descriptor]⟩ := by
  have hadmits : ∀ {descriptor : Descriptor}, spec.Describes descriptor →
      (schema.Admits descriptor ↔ spec.Fits schema.names) := by
    intro descriptor h
    have htyped := NodeSpec.exists_describes_iff.1 ⟨descriptor, h⟩
    constructor
    · rintro ⟨hfresh, hnonempty, hdistinct⟩
      rw [h.name] at hfresh
      rw [h.fieldNames_eq] at hnonempty hdistinct
      exact ⟨htyped, hfresh, hnonempty, hdistinct⟩
    · rintro ⟨-, hfresh, hnonempty, hdistinct⟩
      rw [← h.name] at hfresh
      rw [← h.fieldNames_eq] at hnonempty hdistinct
      exact ⟨hfresh, hnonempty, hdistinct⟩
  rw [registerSpec, bind_eq_ok_iff]
  simp only [NodeSpec.descriptor_eq_ok_iff, register_eq_ok_iff]
  constructor
  · rintro ⟨descriptor, hdescribes, h, rfl⟩
    exact ⟨(hadmits hdescribes).1 h, descriptor, hdescribes, rfl⟩
  · rintro ⟨h, descriptor, hdescribes, rfl⟩
    exact ⟨descriptor, hdescribes, (hadmits hdescribes).2 h, rfl⟩

/-- A row is rejected for its defect. -/
theorem registerSpec_eq_error_iff :
    schema.registerSpec spec = .error error ↔ spec.Defect schema.names error := by
  rw [registerSpec, bind_eq_error_iff]
  simp only [NodeSpec.descriptor_eq_error_iff, NodeSpec.descriptor_eq_ok_iff,
    register_eq_error_iff, Descriptor.defect?, Descriptor.nameDefect?_eq_some_iff,
    Descriptor.nameDefect?_eq_none_iff, List.not_mem_nil, or_false, not_false_eq_true,
    implies_true, and_true]
  constructor
  · rintro (⟨front, type, field, back, hscalars, hknown, hunknown, rfl⟩ |
      ⟨descriptor, hdescribes, hdefect⟩)
    · exact .unknownType hscalars hknown hunknown
    · have htyped := NodeSpec.exists_describes_iff.1 ⟨descriptor, hdescribes⟩
      rw [hdescribes.name, hdescribes.fieldNames_eq] at hdefect
      obtain ⟨hmem, rfl⟩ | ⟨hfresh, front, name, back, hnames, ⟨hnonempty, hdistinct⟩,
        ⟨rfl, rfl⟩ | ⟨-, hmem, rfl⟩⟩ := hdefect
      · exact .takenName htyped hmem
      · exact .emptyField htyped hfresh hnames hnonempty hdistinct
      · exact .repeatedField htyped hfresh hnames hnonempty hdistinct hmem
  · have hread : spec.Typed → ∃ descriptor, spec.Describes descriptor ∧
        descriptor.name = spec.name ∧ descriptor.fieldNames = spec.fieldNames := by
      intro htyped
      obtain ⟨descriptor, hdescribes⟩ := NodeSpec.exists_describes_iff.2 htyped
      exact ⟨descriptor, hdescribes, hdescribes.name, hdescribes.fieldNames_eq⟩
    intro h
    cases h with
    | unknownType hscalars hknown hunknown =>
      exact .inl ⟨_, _, _, _, hscalars, hknown, hunknown, rfl⟩
    | takenName htyped hmem =>
      obtain ⟨descriptor, hdescribes, hname, -⟩ := hread htyped
      refine .inr ⟨descriptor, hdescribes, .inl ?_⟩
      rw [hname]
      exact ⟨hmem, rfl⟩
    | emptyField htyped hfresh hnames hnonempty hdistinct =>
      obtain ⟨descriptor, hdescribes, hname, hfields⟩ := hread htyped
      refine .inr ⟨descriptor, hdescribes, .inr ?_⟩
      rw [hname, hfields]
      exact ⟨hfresh, _, _, _, hnames, ⟨hnonempty, hdistinct⟩, .inl ⟨rfl, rfl⟩⟩
    | repeatedField htyped hfresh hnames hnonempty hdistinct hmem =>
      obtain ⟨descriptor, hdescribes, hname, hfields⟩ := hread htyped
      refine .inr ⟨descriptor, hdescribes, .inr ?_⟩
      rw [hname, hfields]
      exact ⟨hfresh, _, _, _, hnames, ⟨hnonempty, hdistinct⟩,
        .inr ⟨fun hempty => hnonempty (hempty ▸ hmem), hmem, rfl⟩⟩

variable {specs : List NodeSpec}

lemma ofSpecs_append (front back : List NodeSpec) :
    ofSpecs (front ++ back) = ofSpecs front >>= fun schema => back.foldlM registerSpec schema :=
  List.foldlM_append

lemma ofSpecs_concat (specs : List NodeSpec) (spec : NodeSpec) :
    ofSpecs (specs ++ [spec]) = ofSpecs specs >>= fun schema => schema.registerSpec spec := by
  rw [ofSpecs_append]
  simp only [List.foldlM_cons, List.foldlM_nil, bind_pure]

lemma names_of_forall₂_describes
    (h : List.Forall₂ NodeSpec.Describes specs schema.descriptors) :
    schema.names = specs.map NodeSpec.name :=
  map_eq_map_of_forall₂ (h.imp fun _ _ hdescribes => hdescribes.name)

lemma consistent_of_ofSpecs (h : ofSpecs specs = .ok schema) :
    NodeSpec.Consistent specs ∧ List.Forall₂ NodeSpec.Describes specs schema.descriptors := by
  induction specs using List.reverseRecOn generalizing schema with
  | nil =>
    cases h
    exact ⟨NodeSpec.consistent_nil, .nil⟩
  | append_singleton specs spec ih =>
    rw [ofSpecs_concat, bind_eq_ok_iff] at h
    obtain ⟨before, hbefore, hspec⟩ := h
    obtain ⟨hconsistent, hdescribed⟩ := ih hbefore
    obtain ⟨hfits, descriptor, hdescribes, rfl⟩ := registerSpec_eq_ok_iff.1 hspec
    rw [names_of_forall₂_describes hdescribed] at hfits
    exact ⟨NodeSpec.consistent_concat_iff.2 ⟨hconsistent, hfits⟩,
      List.rel_append hdescribed (.cons hdescribes .nil)⟩

lemma exists_ofSpecs_of_consistent (h : NodeSpec.Consistent specs) :
    ∃ schema, ofSpecs specs = .ok schema := by
  induction specs using List.reverseRecOn with
  | nil => exact ⟨empty, rfl⟩
  | append_singleton specs spec ih =>
    obtain ⟨hbefore, hfits⟩ := NodeSpec.consistent_concat_iff.1 h
    obtain ⟨schema, hschema⟩ := ih hbefore
    obtain ⟨-, hdescribed⟩ := consistent_of_ofSpecs hschema
    obtain ⟨descriptor, hdescribes⟩ := NodeSpec.exists_describes_iff.2 hfits.typed
    rw [← names_of_forall₂_describes hdescribed] at hfits
    refine ⟨⟨schema.descriptors ++ [descriptor]⟩, ?_⟩
    rw [ofSpecs_concat, bind_eq_ok_iff]
    exact ⟨schema, hschema, registerSpec_eq_ok_iff.2 ⟨hfits, descriptor, hdescribes, rfl⟩⟩

lemma ofSpecs_of_consistent (h : NodeSpec.Consistent specs) {descriptors : List Descriptor}
    (hread : specs.mapM NodeSpec.descriptor = .ok descriptors) :
    ofSpecs specs = .ok ⟨descriptors⟩ := by
  obtain ⟨schema, hschema⟩ := exists_ofSpecs_of_consistent h
  have hdescribed := (consistent_of_ofSpecs hschema).2
  have hsame : specs.mapM NodeSpec.descriptor = .ok schema.descriptors :=
    mapM_eq_ok_iff.2 (hdescribed.imp fun _ _ => NodeSpec.descriptor_eq_ok_iff.2)
  rw [hsame, Except.ok.injEq] at hread
  rw [hschema, ← hread]

lemma ofSpecs_concat_eq_error_iff (h : NodeSpec.Consistent specs) :
    ofSpecs (specs ++ [spec]) = .error error ↔ spec.Defect (specs.map NodeSpec.name) error := by
  obtain ⟨schema, hschema⟩ := exists_ofSpecs_of_consistent h
  have hnames := names_of_forall₂_describes (consistent_of_ofSpecs hschema).2
  rw [ofSpecs_concat, hschema, ← hnames, ← registerSpec_eq_error_iff]
  rfl

/-- A table is rejected at the first row that is inconsistent with the rows before it. -/
lemma ofSpecs_eq_error_iff :
    ofSpecs specs = .error error ↔ ∃ front spec back, specs = front ++ spec :: back ∧
      NodeSpec.Consistent front ∧ ofSpecs (front ++ [spec]) = .error error := by
  constructor
  · intro h
    induction specs using List.reverseRecOn with
    | nil => cases h
    | append_singleton specs spec ih =>
      cases hbefore : ofSpecs specs with
      | ok schema => exact ⟨specs, spec, [], rfl, (consistent_of_ofSpecs hbefore).1, h⟩
      | error found =>
        rw [ofSpecs_concat, hbefore] at h
        cases h
        obtain ⟨front, first, back, rfl, hfront⟩ := ih hbefore
        exact ⟨front, first, back ++ [spec], by simp, hfront⟩
  · rintro ⟨front, spec, back, rfl, -, h⟩
    rw [← List.singleton_append, ← List.append_assoc, ofSpecs_append, h]
    rfl

/-- A table is taken exactly if it is consistent, as the descriptors that its rows describe, in
order. Otherwise the first row that is inconsistent with the rows before it is reported, with its
defect. -/
theorem ofSpecs_cases (specs : List NodeSpec) :
    ((∃ schema, ofSpecs specs = .ok schema) ↔ NodeSpec.Consistent specs) ∧
      (∀ schema, ofSpecs specs = .ok schema →
        List.Forall₂ NodeSpec.Describes specs schema.descriptors) ∧
      ∀ error, ofSpecs specs = .error error ↔
        ∃ front spec back, specs = front ++ spec :: back ∧ NodeSpec.Consistent front ∧
          ¬ NodeSpec.Consistent (front ++ [spec]) ∧
          spec.Defect (front.map NodeSpec.name) error := by
  refine ⟨⟨?_, exists_ofSpecs_of_consistent⟩, fun schema h => (consistent_of_ofSpecs h).2, ?_⟩
  · rintro ⟨schema, h⟩
    exact (consistent_of_ofSpecs h).1
  · intro error
    rw [ofSpecs_eq_error_iff]
    constructor
    · rintro ⟨front, spec, back, hspecs, hfront, h⟩
      refine ⟨front, spec, back, hspecs, hfront, fun hconsistent => ?_,
        (ofSpecs_concat_eq_error_iff hfront).1 h⟩
      obtain ⟨schema, hschema⟩ := exists_ofSpecs_of_consistent hconsistent
      rw [hschema] at h
      cases h
    · rintro ⟨front, spec, back, hspecs, hfront, -, hdefect⟩
      exact ⟨front, spec, back, hspecs, hfront, (ofSpecs_concat_eq_error_iff hfront).2 hdefect⟩

example : ofSpecs [⟨"A", [], []⟩, ⟨"A", [("Text", "[x")], ["", "x"]⟩] =
    .error (.unknownFieldType "A" "x" "Text") := rfl

end Schema

end TreeDump
