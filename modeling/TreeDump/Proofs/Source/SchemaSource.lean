import TreeDump.Proofs.Program.OfSchema
import TreeDump.Proofs.Source.ProgramMeaning
import TreeDump.Proofs.Source.ProgramText

/-!
# The source of a schema's printer

The source that a schema gives is read as a file whose function does what the schema does: with any
tree, at any depth and into any sink, it writes the same bytes and ends in the same way.
-/

namespace TreeDump

namespace Source

/-- What the function in a text does with a tree at a depth, if the text makes sense. -/
def runText (text : String) (node : Option Node) (depth : Nat) (sink : Sink) :
    Option (Result × Sink) :=
  (File.ofText? text).bind fun file => file.printNode node depth sink

lemma runText_program {program : Program} (h : Typed program) (node : Option Node) (depth : Nat)
    (sink : Sink) :
    runText program.source node depth sink =
      some ((program.printNode node depth).runOn sink) := by
  rw [runText, Program.ofText?_source, Option.bind_some, printNode_file h]
  rfl

end Source

namespace Schema

open Source

/-- A statement that names a type comes from a scalar, so the types are imported for it. -/
lemma typed_program (schema : Schema) : Typed schema.program := by
  intro arm harm statement hstatement htype
  obtain ⟨descriptor, hdescriptor, rfl⟩ := List.mem_map.1 harm
  have hscalars : descriptor.scalars ≠ [] := by
    intro hempty
    simp only [Descriptor.arm, hempty, List.map_nil, List.nil_append, List.mem_cons,
      List.mem_map] at hstatement
    rcases hstatement with rfl | ⟨field, -, rfl⟩
    · cases htype
    · obtain ⟨name, cardinality⟩ := field
      cases cardinality <;> cases htype
  exact List.any_eq_true.2 ⟨descriptor, hdescriptor, by simpa using hscalars⟩

/-- The source of a schema's printer prints every tree as the schema does. -/
theorem runText_source (schema : Schema) (node : Option Node) (depth : Nat) (sink : Sink) :
    runText schema.program.source node depth sink =
      some ((schema.printNode node depth).runOn sink) := by
  rw [runText_program schema.typed_program, printNode_program]

end Schema

end TreeDump
