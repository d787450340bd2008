import TreeDump.Program.Source
import TreeDump.Proofs.Source.Reader
import Mathlib.Tactic.Lemma

/-!
# The syntax of printer programs

Each statement of a printer program stands for a few commands, an arm for a branch, and the program
for a file. The main statement is that the reader gives the file back from its tokens.
-/

namespace TreeDump

namespace Source

def depthAt : Nat → Expr
  | 0 => .path ["depth"]
  | below + 1 => .sum (.path ["depth"]) (.number (below + 1))

def writing (label value : Expr) (below : Nat) : Expr :=
  .attempt (.call ["write_field"] [.path ["out"], label, value, depthAt below])

def counting (marker collection : String) (below : Nat) : Expr :=
  writing (.reference (.format (marker ++ "[\x7b\x7d]") [.method (.path [collection]) "len" []]))
    (.text "") below

def printing (node : Expr) (below : Nat) : Expr :=
  .attempt (.call ["print_node"] [.path ["out"], node, depthAt below])

/-- The expression that reads a field of the node at hand. -/
def reading (method field : String) (others : List Expr) : Expr :=
  .attempt (.method (.path ["node"]) method (.text field :: others))

def typeAt : FieldType → Expr
  | .int => .path ["FieldType", "Int"]
  | .long => .path ["FieldType", "Long"]
  | .double => .path ["FieldType", "Double"]
  | .uInt => .path ["FieldType", "UInt"]
  | .uLong => .path ["FieldType", "ULong"]
  | .identifier => .path ["FieldType", "Identifier"]
  | .bool => .path ["FieldType", "Bool"]

def valueText : ValueForm → Expr
  | .text => .reference (.method (.path ["value"]) "text" [])
  | .canonical => .reference (.method (.path ["value"]) "canonical" [])

end Source

open Source

namespace Statement

def commands : Statement → List Command
  | heading label below => [.run (writing (.text label) (.text "") below)]
  | identifier label field below =>
    [.run (writing (.text label) (reading "identifier" field []) below)]
  | scalar label field type below =>
    [.run (writing (.text label)
      (.reference (.method (reading "scalar" field [typeAt type]) "canonical" [])) below)]
  | scalars field type countBelow label form below =>
    [.bind "values" (reading "scalar_list" field [typeAt type]),
      .run (counting "List" "values" countBelow),
      .each ["value"] (.path ["values"]) [writing (.text label) (valueText form) below]]
  | child field below => [.run (printing (reading "child" field []) below)]
  | children field countBelow below =>
    [.bind "items" (reading "child_list" field []),
      .run (counting "List" "items" countBelow),
      .each ["item"] (.path ["items"]) [printing (.call ["Some"] [.path ["item"]]) below]]
  | dict field countBelow keyBelow below =>
    [.bind "entries" (reading "child_map" field []),
      .run (counting "Dict" "entries" countBelow),
      .each ["key", "item"] (.path ["entries"])
        [writing (.reference (.format "[\x7bkey\x7d]" [])) (.text "") keyBelow,
          printing (.call ["Some"] [.path ["item"]]) below]]

end Statement

namespace Arm

def branch (arm : Arm) : Branch := ⟨arm.tag, arm.body.flatMap Statement.commands⟩

end Arm

namespace Program

/-- The imports that do not depend on the program. -/
def headImports : List (List String) := [
  ["std", "io", "Write"],
  ["astdump_core", "error", "DumpError"],
  ["astdump_core", "error", "DumpResult"],
  ["astdump_core", "node", "Node"],
  ["astdump_core", "printer", "write_field"]]

def imports (program : Program) : List (List String) :=
  headImports ++ if program.importsTypes then [["astdump_core", "types", "FieldType"]] else []

/-- What the functions of all programs have in common. -/
def frame : Function where
  present := "node"
  subject := .path ["node"]
  absent := .leave (.call ["write_field"]
    [.path ["out"], .text "None", .text "", .sum (.path ["depth"]) (.number 1)])
  opening := [.bind "depth" (.sum (.path ["depth"]) (.number 1))]
  matched := .method (.path ["node"]) "tag" []
  branches := []
  other := "tag"
  otherwise := .leave (.call ["Err"]
    [.call ["DumpError", "DispatchMismatch"] [.method (.path ["tag"]) "to_string" []]])
  value := .call ["Ok"] [.unit]

def function (program : Program) : Function :=
  { frame with branches := program.arms.map Arm.branch }

def file (program : Program) : File := ⟨program.imports, program.function⟩

def headTokens : List Source.Token := [
  .word "use", .word "std", .mark ':', .mark ':', .word "io", .mark ':', .mark ':', .word "Write",
  .mark ';', .word "use", .word "astdump_core", .mark ':', .mark ':', .word "error", .mark ':',
  .mark ':', .mark '{', .word "DumpError", .mark ',', .word "DumpResult", .mark '}', .mark ';',
  .word "use", .word "astdump_core", .mark ':', .mark ':', .word "node", .mark ':', .mark ':',
  .word "Node", .mark ';', .word "use", .word "astdump_core", .mark ':', .mark ':',
  .word "printer", .mark ':', .mark ':', .word "write_field", .mark ';']

def typesTokens : List Source.Token := [
  .word "use", .word "astdump_core", .mark ':', .mark ':', .word "types", .mark ':', .mark ':',
  .word "FieldType", .mark ';']

def tokens (program : Program) : List Source.Token :=
  headTokens ++ ((if program.importsTypes then typesTokens else []) ++ program.function.tokens)

end Program

namespace Source

/-- A reader that gives a piece back from its tokens, whatever follows them. -/
def ReadsBack {α : Type} (read : List Token → Option (α × List Token)) (tokens : α → List Token)
    (piece : α) : Prop :=
  ∀ rest, read (tokens piece ++ rest) = some (piece, rest)

/-- A block is read to its end if each of its pieces is read back and none begins with the brace
that closes the block. -/
lemma readBlock_append {α : Type} {read : List Token → Option (α × List Token)}
    {tokens : α → List Token} (pieces : List α) (rest : List Token)
    (hread : ∀ piece ∈ pieces, ReadsBack read tokens piece)
    (hopen : ∀ piece ∈ pieces, ∃ token front, tokens piece = token :: front ∧ token ≠ .mark '}')
    (limit : Nat) (hlimit : pieces.length ≤ limit) :
    readBlock read limit (pieces.flatMap tokens ++ .mark '}' :: rest) = some (pieces, rest) := by
  induction pieces generalizing limit with
  | nil => cases limit <;> rfl
  | cons piece pieces ih =>
    obtain ⟨token, front, htokens, hbrace⟩ := hopen piece (by simp)
    have hpiece := hread piece (by simp) (pieces.flatMap tokens ++ .mark '}' :: rest)
    have hpieces := ih (fun p hp => hread p (by simp [hp])) (fun p hp => hopen p (by simp [hp]))
    cases limit with
    | zero => cases hlimit
    | succ limit =>
      rw [List.flatMap_cons, List.append_assoc]
      rw [htokens, List.cons_append] at hpiece ⊢
      rw [readBlock, hpiece, Option.bind_some, hpieces limit (by simpa using hlimit)]
      · rfl
      · intro _ h
        exact hbrace (List.cons.inj h).1

/-- What nests deepest in a command of a program fits in fifteen levels. -/
lemma readsBack_commands (statement : Statement) (limit : Nat) :
    ∀ command ∈ statement.commands,
      ReadsBack (readCommand (limit + 15)) Command.tokens command := by
  intro command hcommand rest
  cases statement with
  | heading label below =>
    obtain rfl := List.mem_singleton.1 hcommand
    cases below <;> rfl
  | identifier label field below =>
    obtain rfl := List.mem_singleton.1 hcommand
    cases below <;> rfl
  | scalar label field type below =>
    obtain rfl := List.mem_singleton.1 hcommand
    cases below <;> cases type <;> rfl
  | scalars field type countBelow label form below =>
    simp only [Statement.commands, List.mem_cons, List.not_mem_nil, or_false] at hcommand
    rcases hcommand with rfl | rfl | rfl
    · cases type <;> rfl
    · cases countBelow <;> rfl
    · cases below <;> cases form <;> rfl
  | child field below =>
    obtain rfl := List.mem_singleton.1 hcommand
    cases below <;> rfl
  | children field countBelow below =>
    simp only [Statement.commands, List.mem_cons, List.not_mem_nil, or_false] at hcommand
    rcases hcommand with rfl | rfl | rfl
    · rfl
    · cases countBelow <;> rfl
    · cases below <;> rfl
  | dict field countBelow keyBelow below =>
    simp only [Statement.commands, List.mem_cons, List.not_mem_nil, or_false] at hcommand
    rcases hcommand with rfl | rfl | rfl
    · rfl
    · cases countBelow <;> rfl
    · cases keyBelow <;> cases below <;> rfl

lemma commands_open (statement : Statement) :
    ∀ command ∈ statement.commands,
      ∃ token front, Command.tokens command = token :: front ∧ token ≠ .mark '}' := by
  intro command hcommand
  cases statement <;>
    simp only [Statement.commands, List.mem_cons, List.not_mem_nil, or_false] at hcommand <;>
    (try rcases hcommand with rfl | rfl | rfl) <;>
    exact ⟨_, _, rfl, by simp⟩

lemma readBranches_nil (limit count : Nat) {token : Token} (rest : List Token)
    (h : ∀ text, token ≠ .literal text) :
    readBranches limit count (token :: rest) = some ([], token :: rest) := by
  cases count with
  | zero => rw [readBranches]; simp
  | succ count =>
    rw [readBranches]
    intro _ pattern _ _ heq
    exact h pattern (List.cons.inj heq).1

lemma readBlock_branch (arm : Arm) (limit : Nat) (hlimit : (Arm.branch arm).body.length ≤ limit + 15)
    (rest : List Token) :
    readBlock (readCommand (limit + 15)) (limit + 15)
        ((Arm.branch arm).body.flatMap Command.tokens ++ .mark '}' :: rest) =
      some ((Arm.branch arm).body, rest) := by
  apply readBlock_append _ _ _ _ _ hlimit
  · intro command hcommand
    obtain ⟨statement, _, hmem⟩ := List.mem_flatMap.1 hcommand
    exact readsBack_commands statement limit command hmem
  · intro command hcommand
    obtain ⟨statement, _, hmem⟩ := List.mem_flatMap.1 hcommand
    exact commands_open statement command hmem

lemma readBranches_arms (arms : List Arm) (limit count : Nat) (hcount : arms.length ≤ count)
    (hlimit : ∀ arm ∈ arms, (Arm.branch arm).body.length ≤ limit + 15) (token : Token)
    (rest : List Token) (h : ∀ text, token ≠ .literal text) :
    readBranches (limit + 15) count
        ((arms.map Arm.branch).flatMap Branch.tokens ++ token :: rest) =
      some (arms.map Arm.branch, token :: rest) := by
  induction arms generalizing count with
  | nil => exact readBranches_nil _ _ rest h
  | cons arm arms ih =>
    cases count with
    | zero => cases hcount
    | succ count =>
      have hbody := readBlock_branch arm limit (hlimit arm (by simp))
        ((arms.map Arm.branch).flatMap Branch.tokens ++ token :: rest)
      have hrest := ih count (by simpa using hcount) (fun a ha => hlimit a (by simp [ha]))
      simp only [List.map_cons, List.flatMap_cons, Branch.tokens, List.cons_append,
        List.append_assoc, List.nil_append, readBranches, hbody, Option.bind_some, hrest,
        Option.map_some]

end Source

namespace Program

lemma length_body_le (arm : Arm) :
    (Arm.branch arm).body.length ≤ (Arm.branch arm).tokens.length := by
  unfold Branch.tokens
  have h : ∀ commands : List Command,
      commands.length ≤ (commands.flatMap Command.tokens).length := by
    intro commands
    induction commands with
    | nil => simp
    | cons command commands ih =>
      have hone : 1 ≤ command.tokens.length := by
        cases command <;> simp [Command.tokens]
      rw [List.flatMap_cons, List.length_append, List.length_cons]
      omega
  have := h (Arm.branch arm).body
  simp only [List.length_cons, List.length_append]
  omega

lemma length_branches_le (arms : List Arm) :
    arms.length ≤ ((arms.map Arm.branch).flatMap Branch.tokens).length ∧
      ∀ arm ∈ arms, (Arm.branch arm).body.length ≤
        ((arms.map Arm.branch).flatMap Branch.tokens).length := by
  induction arms with
  | nil => simp
  | cons arm arms ih =>
    have hbody := length_body_le arm
    have hone : 1 ≤ (Arm.branch arm).tokens.length := by simp [Branch.tokens]
    simp only [List.map_cons, List.flatMap_cons, List.length_append, List.length_cons,
      List.mem_cons, forall_eq_or_imp]
    refine ⟨by omega, by omega, fun a ha => ?_⟩
    have := ih.2 a ha
    omega

lemma readFunction_tokens (program : Program) (limit : Nat)
    (hlimit : program.function.tokens.length ≤ limit) :
    readFunction limit program.function.tokens = some program.function := by
  obtain ⟨harms, hbodies⟩ := length_branches_le program.arms
  have hlong : ((program.arms.map Arm.branch).flatMap Branch.tokens).length + 15 ≤
      program.function.tokens.length := by
    simp only [Function.tokens, Function.openingTokens, function, List.length_append,
      List.length_cons, signatureTokens]
    omega
  obtain ⟨room, rfl⟩ := Nat.exists_eq_add_of_le' (show 15 ≤ limit by omega)
  have hbranches := readBranches_arms program.arms room (room + 15) (by omega)
    (fun arm harm => by have := hbodies arm harm; omega) (.word "tag") frame.closingTokens.tail
    (by simp)
  have hopening : readFunction (room + 15) program.function.tokens =
      (readBranches (room + 15) (room + 15)
        ((program.arms.map Arm.branch).flatMap Branch.tokens ++
          .word "tag" :: frame.closingTokens.tail)).bind
        (fun r => (readWordThen [.mark '=', .mark '>'] r.2).bind fun other =>
          (readExprThen (room + 15) [.mark ',', .mark '}'] other.2).bind fun otherwise =>
            (readExprThen (room + 15) [.mark '}'] otherwise.2).bind fun value =>
              if value.2 = [] then
                some { program.function with
                  branches := r.1, other := other.1, otherwise := otherwise.1, value := value.1 }
              else none) := rfl
  rw [hopening, hbranches]
  rfl

lemma readImports_tokens (program : Program) (limit : Nat) :
    readImports (limit + 7) program.tokens = some (program.imports, program.function.tokens) := by
  unfold tokens imports
  split <;> rfl

/-- A program's file is read back from its tokens. -/
theorem ofTokens?_tokens (program : Program) :
    File.ofTokens? program.tokens = some program.file := by
  have hlength : program.function.tokens.length + 7 ≤ program.tokens.length := by
    simp only [tokens, headTokens, List.length_append, List.length_cons]
    omega
  obtain ⟨limit, hlimit⟩ := Nat.exists_eq_add_of_le' (show 7 ≤ program.tokens.length by omega)
  have himports := readImports_tokens program limit
  rw [← hlimit] at himports
  unfold File.ofTokens?
  rw [himports, Option.bind_some, readFunction_tokens program _ (by omega)]
  rfl

end Program

end TreeDump
