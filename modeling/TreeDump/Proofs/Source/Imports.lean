import TreeDump.Proofs.Source.ArmLines
import TreeDump.Proofs.Source.SchemaSource
import TreeDump.Schema.Registration

/-!
# What the source of a printer imports and uses

The source of a printer uses an item where a path in an expression goes through it, as
`FieldType::Int` goes through `FieldType`; what a text says is no path. The types are used for all
scalars but single names, which are read without their type. So the import of the types is never
missing, and it is there in vain exactly if all scalars of a schema are single names.
-/

namespace TreeDump

namespace Source

namespace Expr

mutual

/-- The paths in an expression, those of what it calls included. -/
def paths : Expr → List (List String)
  | text _ => []
  | number _ => []
  | unit => []
  | path names => [names]
  | reference value => paths value
  | sum left right => paths left ++ paths right
  | attempt value => paths value
  | leave value => paths value
  | call function arguments => function :: argumentPaths arguments
  | method receiver _ arguments => paths receiver ++ argumentPaths arguments
  | format _ arguments => argumentPaths arguments

def argumentPaths : List Expr → List (List String)
  | [] => []
  | argument :: rest => paths argument ++ argumentPaths rest

end

end Expr

def Command.paths : Command → List (List String)
  | bind _ value => value.paths
  | run value => value.paths
  | each _ source body => source.paths ++ body.flatMap Expr.paths

def Branch.paths (branch : Branch) : List (List String) := branch.body.flatMap Command.paths

/-- The paths anywhere in the function. -/
def Function.paths (function : Function) : List (List String) :=
  function.subject.paths ++ function.absent.paths ++ function.opening.flatMap Command.paths ++
    function.matched.paths ++ function.branches.flatMap Branch.paths ++
    function.otherwise.paths ++ function.value.paths

/-- Whether a path goes through an item to one of its members. -/
def isThrough (item : String) : List String → Bool
  | first :: _ :: _ => first = item
  | _ => false

/-- Whether one of some paths goes through an item. -/
def uses (item : String) (paths : List (List String)) : Bool := paths.any (isThrough item)

lemma uses_append (item : String) (front back : List (List String)) :
    uses item (front ++ back) = (uses item front || uses item back) := List.any_append

lemma uses_flatMap {α : Type} (item : String) (paths : α → List (List String)) (pieces : List α) :
    uses item (pieces.flatMap paths) = pieces.any fun piece => uses item (paths piece) :=
  List.any_flatMap

lemma uses_commands (statement : Statement) :
    uses "FieldType" (statement.commands.flatMap Command.paths) = namesType statement := by
  cases statement with
  | heading label below => cases below <;> rfl
  | identifier label field below => cases below <;> rfl
  | scalar label field type below => cases type <;> cases below <;> rfl
  | scalars field type countBelow label form below =>
    cases type <;> cases countBelow <;> cases form <;> cases below <;> rfl
  | child field below => cases below <;> rfl
  | children field countBelow below => cases countBelow <;> cases below <;> rfl
  | dict field countBelow keyBelow below =>
    cases countBelow <;> cases keyBelow <;> cases below <;> rfl

lemma uses_branch (arm : Arm) :
    uses "FieldType" arm.branch.paths = arm.body.any namesType := by
  rw [Branch.paths, Arm.branch, List.flatMap_assoc, uses_flatMap]
  simp only [uses_commands]

/-- Outside of its branches the function of a program does not use the types. -/
lemma uses_function (program : Program) :
    uses "FieldType" program.function.paths =
      program.function.branches.any fun branch => uses "FieldType" branch.paths := by
  have hopening : uses "FieldType" (Program.frame.subject.paths ++ Program.frame.absent.paths ++
      Program.frame.opening.flatMap Command.paths ++ Program.frame.matched.paths) = false := rfl
  have hotherwise : uses "FieldType" Program.frame.otherwise.paths = false := rfl
  have hvalue : uses "FieldType" Program.frame.value.paths = false := rfl
  rw [Function.paths, uses_append, uses_append, uses_append, uses_flatMap]
  simp only [Program.function, hopening, hotherwise, hvalue, Bool.false_or, Bool.or_false]

end Source

open Source

namespace Program

/-- The lines of arms are indented, so none of them is an import. -/
lemma head?_sourceLine (level : Nat) (text : String) :
    (sourceLine (level + 1) text).toList.head? = some ' ' := by
  have hlevel : 4 * (level + 1) = 4 * level + 3 + 1 := by omega
  rw [sourceLine, hlevel, List.replicate_succ, String.toList_append, String.toList_ofList]
  rfl

lemma typesImport_notMem_arm (arm : Arm) : typesImport ∉ arm.sourceLines := by
  have hstatement : ∀ statement : Statement, ∀ line ∈ statement.sourceLines,
      line.toList.head? = some ' ' := by
    intro statement
    cases statement <;> simp [Statement.sourceLines, head?_sourceLine]
  have hline : ∀ line ∈ arm.sourceLines, line.toList.head? = some ' ' := by
    simp only [Arm.sourceLines, List.forall_mem_cons, List.forall_mem_append, List.mem_flatMap]
    refine ⟨head?_sourceLine 1 _, ?_, head?_sourceLine 1 _, by simp⟩
    rintro line ⟨statement, -, hline⟩
    exact hstatement statement line hline
  intro himport
  exact absurd (hline _ himport) (by decide)

lemma typesImport_mem_sourceLines (program : Program) :
    typesImport ∈ program.sourceLines ↔ program.importsTypes = true := by
  have hhead : typesImport ∉ headLines := by decide +kernel
  have hopening : typesImport ∉ openingLines := by decide +kernel
  have hclosing : typesImport ∉ closingLines := by decide +kernel
  have harms : typesImport ∉ program.arms.flatMap Arm.sourceLines := by
    intro himport
    obtain ⟨arm, -, harm⟩ := List.mem_flatMap.1 himport
    exact typesImport_notMem_arm arm harm
  simp only [sourceLines, List.mem_append, hhead, hopening, hclosing, harms, false_or, or_false]
  split
  · next h => simp [h]
  · next h => simp [h]

lemma typesImport_mem_source (program : Program) :
    typesImport.toList ∈ program.source.toList.splitOn '\n' ↔ program.importsTypes = true := by
  have hne : typesImport.toList ≠ [] := by decide
  rw [program.toList_source, splitOn_joinLines program.oneLine_sourceLines, List.mem_append,
    List.mem_singleton, or_iff_left hne, List.mem_map_of_injective fun _ _ => String.toList_injective,
    typesImport_mem_sourceLines]

lemma mem_imports_iff (program : Program) :
    ["astdump_core", "types", "FieldType"] ∈ program.imports ↔ program.importsTypes = true := by
  unfold imports
  cases program.importsTypes <;> decide

end Program

/-- A field with one name. -/
def ScalarField.IsName (field : ScalarField) : Prop :=
  field.type = .identifier ∧ field.cardinality = .single

lemma ScalarField.namesType_statement (field : ScalarField) :
    namesType field.statement = true ↔ ¬ field.IsName := by
  obtain ⟨type, name, cardinality⟩ := field
  unfold IsName
  cases type <;> cases cardinality <;> simp [statement, namesType, FieldType.textRule]

lemma ChildField.namesType_statement (field : ChildField) :
    namesType field.statement = false := by
  obtain ⟨name, cardinality⟩ := field
  cases cardinality <;> rfl

lemma Descriptor.uses_arm (descriptor : Descriptor) :
    uses "FieldType" descriptor.arm.branch.paths = true ↔
      ∃ field ∈ descriptor.scalars, ¬ field.IsName := by
  have hheading : namesType (.heading descriptor.name 0) = false := rfl
  rw [uses_branch, arm]
  simp only [List.any_cons, List.any_append, List.any_map, Function.comp_def, hheading,
    ChildField.namesType_statement, List.any_eq_true, Bool.or_eq_true, Bool.false_eq_true,
    and_false, exists_false, or_false, false_or, ScalarField.namesType_statement]

namespace Schema

lemma importsTypes_program (schema : Schema) :
    schema.program.importsTypes = true ↔
      ∃ descriptor ∈ schema.descriptors, descriptor.scalars ≠ [] := by
  simp [program]

lemma uses_branches (schema : Schema) :
    (∃ branch ∈ schema.program.function.branches, uses "FieldType" branch.paths = true) ↔
      ∃ descriptor ∈ schema.descriptors, ∃ field ∈ descriptor.scalars, ¬ field.IsName := by
  have hbranches : schema.program.function.branches =
      schema.descriptors.map fun descriptor => descriptor.arm.branch := List.map_map
  simp only [hbranches, List.mem_map, exists_exists_and_eq_and, Descriptor.uses_arm]

/-- The source of a schema's printer has a line that imports the types exactly if a descriptor
declares a scalar, and then the file in the source imports them. The function uses the types nowhere
but in its branches, and there exactly if a descriptor declares a scalar that is not a single name.
So they are imported whenever they are used, and they are imported without use exactly if there are
scalars and all of them are single names. -/
theorem typesImport_source (schema : Schema) :
    let source := schema.program.source
    let imported := Program.typesImport.toList ∈ source.toList.splitOn '\n'
    ∃ file, File.ofText? source = some file ∧
      let used := ∃ branch ∈ file.function.branches, uses "FieldType" branch.paths = true
      (["astdump_core", "types", "FieldType"] ∈ file.imports ↔ imported) ∧
      (imported ↔ ∃ descriptor ∈ schema.descriptors, descriptor.scalars ≠ []) ∧
      (uses "FieldType" file.function.paths = true ↔ used) ∧
      (used ↔ ∃ descriptor ∈ schema.descriptors, ∃ field ∈ descriptor.scalars, ¬ field.IsName) ∧
      (used → imported) ∧
      (imported ∧ ¬ used ↔
        (∃ descriptor ∈ schema.descriptors, descriptor.scalars ≠ []) ∧
          ∀ descriptor ∈ schema.descriptors, ∀ field ∈ descriptor.scalars, field.IsName) := by
  intro source imported
  refine ⟨schema.program.file, schema.program.ofText?_source, ?_⟩
  intro used
  have himported : imported ↔ ∃ descriptor ∈ schema.descriptors, descriptor.scalars ≠ [] :=
    schema.program.typesImport_mem_source.trans schema.importsTypes_program
  have hused : used ↔
      ∃ descriptor ∈ schema.descriptors, ∃ field ∈ descriptor.scalars, ¬ field.IsName :=
    schema.uses_branches
  refine ⟨?_, himported, ?_, hused, ?_, ?_⟩
  · exact schema.program.mem_imports_iff.trans schema.program.typesImport_mem_source.symm
  · exact (Bool.eq_iff_iff.1 (uses_function schema.program)).trans List.any_eq_true
  · rw [himported, hused]
    rintro ⟨descriptor, hdescriptor, field, hfield, -⟩
    exact ⟨descriptor, hdescriptor, List.ne_nil_of_mem hfield⟩
  · rw [himported, hused]
    simp only [not_exists, not_and, not_not]

/-- A schema of one descriptor with a single name imports the types and uses them nowhere. -/
theorem typesImport_unused :
    let schema := empty.afterAll [.row ⟨"CVar", [("TIdentifier", "name")], []⟩]
    let source := schema.program.source
    Program.typesImport.toList ∈ source.toList.splitOn '\n' ∧
      ∃ file, File.ofText? source = some file ∧ uses "FieldType" file.function.paths = false := by
  intro schema source
  have himports : schema.program.importsTypes = true := by decide +kernel
  have hfunction : uses "FieldType" schema.program.function.paths = false := by decide +kernel
  exact ⟨schema.program.typesImport_mem_source.2 himports, schema.program.file,
    schema.program.ofText?_source, hfunction⟩

end Schema

end TreeDump
