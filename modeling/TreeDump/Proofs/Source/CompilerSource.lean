import TreeDump.Program.Compiler
import TreeDump.Schema.CompilerTable
import TreeDump.Proofs.Schema.RowTables
import TreeDump.Proofs.Source.SchemaSource

/-!
# The printer of the compiler's nodes

The program that is kept for the compiler's nodes is the one that the node table gives, although
nothing in it refers to the table. So it prints every tree as the schema of the table does, the trees
that do not fit the table included.
-/

namespace TreeDump

namespace CompilerTable

/-- The bytes of a name as the digits of a number. -/
def nameCode (name : String) : Nat :=
  name.toUTF8.data.toList.foldl (fun code byte => 256 * code + byte.toNat) 0

/-- All pairs of names are compared here, and numbers are compared faster than texts. -/
lemma nodup_nameCodes : ((rows.map NodeSpec.name).map nameCode).Nodup := by
  decide +kernel

lemma sound_rows :
    ∀ spec ∈ rows, (∀ entry ∈ spec.scalars, entry.1 ∈ FieldType.names) ∧
      "" ∉ spec.fieldNames ∧ spec.fieldNames.Nodup := by
  decide +kernel

lemma consistent_rows : NodeSpec.Consistent rows where
  typed := fun spec hspec => (sound_rows spec hspec).1
  names := nodup_nameCodes.of_map nameCode
  nonempty := fun spec hspec => (sound_rows spec hspec).2.1
  distinct := fun spec hspec => (sound_rows spec hspec).2.2

/-- The descriptors that the rows are read as give the program that is kept. -/
lemma program_rows :
    (rows.mapM NodeSpec.descriptor).toOption.map (fun descriptors => Schema.program ⟨descriptors⟩) =
      some Program.compiler := by
  decide +kernel

end CompilerTable

lemma Schema.program_compiler :
    Schema.compiler.toOption.map Schema.program = some Program.compiler := by
  have hrows := CompilerTable.program_rows
  cases hread : CompilerTable.rows.mapM NodeSpec.descriptor with
  | error error =>
    rw [hread] at hrows
    cases hrows
  | ok descriptors =>
    rw [hread] at hrows
    rw [compiler, ofSpecs_of_consistent CompilerTable.consistent_rows hread]
    exact hrows

/-- The kept printer and the schema of the node table are the same function, and it is also what the
source of the kept printer does. -/
theorem Program.printNode_compiler :
    ∃ schema, Schema.compiler = .ok schema ∧
      ∀ (node : Option Node) (depth : Nat) (sink : Sink),
        (Program.compiler.printNode node depth).runOn sink =
            (schema.printNode node depth).runOn sink ∧
          Source.runText Program.compiler.source node depth sink =
            some ((schema.printNode node depth).runOn sink) := by
  obtain ⟨schema, hschema, hprogram⟩ := Option.map_eq_some_iff.1 Schema.program_compiler
  have htable : Schema.compiler = .ok schema := by
    cases hcompiler : Schema.compiler with
    | error error =>
      rw [hcompiler] at hschema
      cases hschema
    | ok found =>
      rw [hcompiler] at hschema
      exact congrArg Except.ok (Option.some.inj hschema)
  refine ⟨schema, htable, fun node depth sink => ⟨?_, ?_⟩⟩
  · rw [← hprogram, Schema.printNode_program]
  · rw [← hprogram, Source.runText_program schema.typed_program, Schema.printNode_program]

end TreeDump
