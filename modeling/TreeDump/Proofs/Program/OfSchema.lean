import TreeDump.Program.OfSchema
import TreeDump.Program.Print
import TreeDump.Proofs.Tree.Reading
import Mathlib.Tactic.Lemma

/-!
# A schema's program prints as the schema

Each statement does what the declared field does that it comes from. A program reads an identifier
without its type and a schema with it, and a program takes the canonical text of a value where a
schema goes by the rule of its type: both come to the same value and the same text.
-/

namespace TreeDump

namespace ValueForm

lemma apply_eq_text (form : ValueForm) (value : Scalar) : form.apply value = value.text := by
  cases form with
  | text => rfl
  | canonical => exact value.text_eq_canonical.symm

end ValueForm

section

variable {node : Layer Print} {depth : Nat}

lemma ScalarField.run_statement (field : ScalarField) :
    field.statement.run node depth = field.print node depth := by
  obtain ⟨type, name, cardinality⟩ := field
  cases cardinality with
  | single =>
    cases type with
    | identifier =>
      change (DumpM.ofExcept (node.readIdentifier name) >>= fun text =>
        .field name text (depth + 1)) = _
      rw [node.readIdentifier_eq]
      unfold ScalarField.print
      cases node.readScalar name .identifier <;> rfl
    | _ =>
      simp only [statement, FieldType.textRule, Statement.run, print, Scalar.text_eq_canonical]
  | list =>
    cases type <;>
      simp only [statement, FieldType.textRule, Statement.run, print, ValueForm.apply_eq_text]

lemma ChildField.run_statement (field : ChildField) :
    field.statement.run node depth = field.print node depth := by
  obtain ⟨name, cardinality⟩ := field
  cases cardinality <;> rfl

lemma Descriptor.run_arm (descriptor : Descriptor) :
    descriptor.arm.body.forM (Statement.run node depth) = descriptor.print node depth := by
  simp only [arm, print, List.forM_eq_forM, List.forM_cons, List.forM_append, List.forM_map,
    ScalarField.run_statement, ChildField.run_statement]
  rfl

end

namespace Schema

lemma printLayer_program (schema : Schema) : schema.program.printLayer = schema.printLayer := by
  funext node depth
  have harm : (schema.program.arms.find? fun arm => arm.tag = node.tag) =
      (schema.get? node.tag).map Descriptor.arm := by
    unfold program get?
    rw [List.find?_map]
    rfl
  unfold Program.printLayer Schema.printLayer
  rw [harm]
  cases schema.get? node.tag with
  | none => rfl
  | some descriptor => exact descriptor.run_arm

/-- A schema's program prints every tree as the schema does. -/
theorem printNode_program (schema : Schema) : schema.program.printNode = schema.printNode := by
  unfold Program.printNode Schema.printNode
  rw [printLayer_program]

end Schema

end TreeDump
