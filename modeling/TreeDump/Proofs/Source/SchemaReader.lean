import TreeDump.Program.OfSchema
import TreeDump.Proofs.Schema.Registration
import TreeDump.Proofs.Source.ArmLines
import TreeDump.Proofs.Source.ProgramText

/-!
# Schemas read from sources

The source of a printer tells its schema. A branch gives the descriptor of its pattern, and a field
is known by the method that reads it: the method says whether the field holds scalars or children
and how many, and a scalar's type stands beside the name. The headings, the counts and the bodies of
loops tell nothing more. Since one reader recovers every schema from its source, different schemas
have different sources.
-/

namespace TreeDump

open Literal (quote)

namespace Source

/-- The type that an expression names. -/
def Expr.type? : Expr → Option FieldType
  | .path ["FieldType", "Int"] => some .int
  | .path ["FieldType", "Long"] => some .long
  | .path ["FieldType", "Double"] => some .double
  | .path ["FieldType", "UInt"] => some .uInt
  | .path ["FieldType", "ULong"] => some .uLong
  | .path ["FieldType", "Identifier"] => some .identifier
  | .path ["FieldType", "Bool"] => some .bool
  | _ => none

/-- The field that a method of a node reads under a name. -/
def fieldRead? (name : String) : String → List Expr → Option (ScalarField ⊕ ChildField)
  | "identifier", [] => some (.inl ⟨.identifier, name, .single⟩)
  | "scalar", [type] => type.type?.map fun type => .inl ⟨type, name, .single⟩
  | "scalar_list", [type] => type.type?.map fun type => .inl ⟨type, name, .list⟩
  | "child", [] => some (.inr ⟨name, .single⟩)
  | "child_list", [] => some (.inr ⟨name, .list⟩)
  | "child_map", [] => some (.inr ⟨name, .dict⟩)
  | _, _ => none

/-- The field of the node at hand that an expression reads, alone or for its canonical text. -/
def Expr.field? : Expr → Option (ScalarField ⊕ ChildField)
  | .attempt (.method (.path ["node"]) reader (.text name :: others)) =>
    fieldRead? name reader others
  | .reference (.method (.attempt (.method (.path ["node"]) reader (.text name :: others)))
      "canonical" []) => fieldRead? name reader others
  | _ => none

/-- The field that a command reads. -/
def Command.field? : Command → Option (ScalarField ⊕ ChildField)
  | .bind _ value => value.field?
  | .run (.attempt (.call ["write_field"] [_, _, value, _])) => value.field?
  | .run (.attempt (.call ["print_node"] [_, node, _])) => node.field?
  | _ => none

def Branch.fields (branch : Branch) : List (ScalarField ⊕ ChildField) :=
  branch.body.filterMap Command.field?

def Branch.descriptor (branch : Branch) : Descriptor :=
  ⟨branch.pattern, branch.fields.filterMap Sum.getLeft?, branch.fields.filterMap Sum.getRight?⟩

end Source

open Source

lemma ScalarField.fields_statement (field : ScalarField) :
    field.statement.commands.filterMap Command.field? = [.inl field] := by
  obtain ⟨type, name, cardinality⟩ := field
  cases cardinality <;> cases type <;> rfl

lemma ChildField.fields_statement (field : ChildField) :
    field.statement.commands.filterMap Command.field? = [.inr field] := by
  obtain ⟨name, cardinality⟩ := field
  cases cardinality <;> rfl

namespace Descriptor

lemma fields_arm (descriptor : Descriptor) :
    descriptor.arm.branch.fields =
      descriptor.scalars.map .inl ++ descriptor.children.map .inr := by
  have hheading :
      (Statement.heading descriptor.name 0).commands.filterMap Command.field? = [] := rfl
  simp only [arm, Arm.branch, Branch.fields, List.flatMap_cons, List.flatMap_append,
    List.filterMap_append, List.filterMap_flatMap, List.flatMap_map, hheading,
    ScalarField.fields_statement, ChildField.fields_statement, List.nil_append]
  rw [List.map_eq_flatMap, List.map_eq_flatMap]

lemma descriptor_arm (descriptor : Descriptor) : descriptor.arm.branch.descriptor = descriptor := by
  have hpattern : descriptor.arm.branch.pattern = descriptor.name := rfl
  rw [Branch.descriptor, fields_arm, hpattern]
  simp [List.filterMap_map, Function.comp_def]

end Descriptor

namespace Schema

/-- The schema in a source text, if the text can be read. -/
def ofSource? (text : String) : Option Schema :=
  (File.ofText? text).map fun file => ⟨file.function.branches.map Branch.descriptor⟩

lemma ofSource?_source (schema : Schema) : ofSource? schema.program.source = some schema := by
  have hbranches : schema.program.file.function.branches.map Branch.descriptor =
      schema.descriptors := by
    change ((schema.descriptors.map Descriptor.arm).map Arm.branch).map Branch.descriptor = _
    simp only [List.map_map, Function.comp_def, Descriptor.descriptor_arm, List.map_id']
  rw [ofSource?, Program.ofText?_source, Option.map_some, hbranches]

lemma occurrences_source {schema : Schema} (h : schema.names.Nodup) :
    ∃ places : List Nat, places.Pairwise (· < ·) ∧
      schema.descriptors.map (fun descriptor =>
        occurrences (armOpening descriptor.name ++ "\n").toList schema.program.source.toList) =
        places.map ([·]) ∧
      occurrences (arrow ++ "\n").toList schema.program.source.toList =
        List.zipWith (fun descriptor place => place + (8 + (quote descriptor.name).length))
          schema.descriptors places := by
  have htags : schema.program.arms.map Arm.tag = schema.names := List.map_map
  obtain ⟨places, hplaces, hopenings, harrows⟩ := Program.occurrences_armOpening (htags ▸ h)
  have harms : schema.program.arms = schema.descriptors.map Descriptor.arm := rfl
  have htag : ∀ descriptor : Descriptor, descriptor.arm.tag = descriptor.name := fun _ => rfl
  simp only [harms, List.map_map, Function.comp_def, htag] at hopenings
  simp only [harms, List.zipWith_map_left, htag] at harrows
  exact ⟨places, hplaces, hopenings, harrows⟩

/-- The source of a schema that has grown from nothing tells its descriptors, in order: one reader
gives them back, so no schema with other descriptors has the same source. The match in it has an arm
for each descriptor and a last one for all other tags. The line that opens the arm of a descriptor
occurs once in the text, these lines come in the order of the descriptors, and no other line ends
with the arrow of an arm. -/
theorem ofSource?_afterAll (registrations : List Registration) :
    let schema := empty.afterAll registrations
    let source := schema.program.source
    ofSource? source = some schema ∧
      (∀ others, (empty.afterAll others).descriptors ≠ schema.descriptors →
        (empty.afterAll others).program.source ≠ source) ∧
      (∃ file, File.ofText? source = some file ∧
        file.function.branches.map Branch.pattern = schema.descriptors.map Descriptor.name ∧
        file.function.other = "tag") ∧
      ∃ places : List Nat, places.Pairwise (· < ·) ∧
        schema.descriptors.map (fun descriptor =>
          occurrences (armOpening descriptor.name ++ "\n").toList source.toList) =
          places.map ([·]) ∧
        occurrences (arrow ++ "\n").toList source.toList =
          List.zipWith (fun descriptor place => place + (8 + (quote descriptor.name).length))
            schema.descriptors places := by
  intro schema source
  refine ⟨schema.ofSource?_source, fun others hothers hsource => hothers ?_,
    ⟨_, schema.program.ofText?_source, ?_, rfl⟩, ?_⟩
  · have hother := (empty.afterAll others).ofSource?_source
    rw [hsource, schema.ofSource?_source] at hother
    exact congrArg descriptors (Option.some.inj hother).symm
  · change ((schema.descriptors.map Descriptor.arm).map Arm.branch).map Branch.pattern = _
    rw [List.map_map, List.map_map]
    rfl
  · have hsound : schema.Sound := sound_empty.afterAll registrations
    exact occurrences_source hsound.distinct

end Schema

end TreeDump
