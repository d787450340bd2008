import TreeDump.Proofs.Source.ProgramSyntax
import TreeDump.Proofs.Source.Scanning

/-!
# The text of printer programs

The source of a program is scanned line by line, and every line gives the tokens of a piece of the
program's syntax. So the source text of any program, whatever names stand in it, is read back as the
program's file.
-/

namespace TreeDump

open Literal (quote)

namespace Source

open Source.Token (word mark literal)

/-- Lines of source, each with its line feed, complete some tokens. -/
def ScannedLines (lines : List String) (tokens : List Token) : Prop :=
  Place.gap.scan (lines.flatMap fun line => line.toList ++ ['\n']) = some (tokens, .gap)

namespace ScannedLines

lemma nil : ScannedLines [] [] := rfl

lemma append {front back : List String} {first second : List Token}
    (hf : ScannedLines front first) (hb : ScannedLines back second) :
    ScannedLines (front ++ back) (first ++ second) := by
  unfold ScannedLines at *
  rw [List.flatMap_append, Place.scan_append, hf, Option.bind_some, hb]
  rfl

lemma flatMap {α : Type} {lines : α → List String} {tokens : α → List Token}
    (h : ∀ a, ScannedLines (lines a) (tokens a)) (items : List α) :
    ScannedLines (items.flatMap lines) (items.flatMap tokens) := by
  induction items with
  | nil => exact nil
  | cons item items ih =>
    rw [List.flatMap_cons, List.flatMap_cons]
    exact (h item).append ih

end ScannedLines

lemma scannedLines_singleton {line : String} {tokens : List Token}
    (h : Scanned .gap line tokens .gap) : ScannedLines [line] tokens := by
  have hfeed : Place.gap.scan ['\n'] = some ([], .gap) := rfl
  unfold ScannedLines
  rw [List.flatMap_cons, List.flatMap_nil, List.append_nil, Place.scan_append, h,
    Option.bind_some, hfeed]
  simp

lemma scanned_sourceLine (level : Nat) {text : String} {tokens : List Token}
    (h : Scanned .gap text tokens .gap) : Scanned .gap (sourceLine level text) tokens .gap := by
  have hblank : ∀ n, Place.gap.scan (List.replicate n ' ') = some ([], .gap) := by
    intro n
    induction n with
    | zero => rfl
    | succ n ih =>
      have hspace : Place.gap.next ' ' = some ([], .gap) := rfl
      rw [List.replicate_succ, Place.scan_cons hspace, ih]
      rfl
  have hindent : Scanned .gap (String.ofList (List.replicate (4 * level) ' ')) [] .gap := by
    unfold Scanned
    rw [String.toList_ofList, hblank]
  exact hindent.append h

lemma scannedLines_sourceLine (level : Nat) {text : String} {tokens : List Token}
    (h : Scanned .gap text tokens .gap) : ScannedLines [sourceLine level text] tokens :=
  scannedLines_singleton (scanned_sourceLine level h)

lemma scanned_depthExpression (below : Nat) :
    Scanned .gap (depthExpression below ++ ")?;")
      ((depthAt below).tokens ++ [mark ')', mark '?', mark ';']) .gap := by
  cases below with
  | zero => rfl
  | succ below =>
    have hopen : Scanned .gap "depth + " [word "depth", mark '+'] .gap := rfl
    have hclose : Scanned (.number (below + 1)) ")?;"
        [.number (below + 1), mark ')', mark '?', mark ';'] .gap := rfl
    exact (hopen.append (scanned_decimal (below + 1))).append hclose

lemma scanned_comma : Scanned .gap ", " [mark ','] .gap := by decide

lemma scanned_emptyText : Scanned .gap "\"\"" (Expr.text "").tokens .gap := by decide

lemma scanned_writeField {label value : String} {labelExpr valueExpr : Expr}
    (hlabel : Scanned .gap label labelExpr.tokens .gap)
    (hvalue : Scanned .gap value valueExpr.tokens .gap) (below : Nat) :
    Scanned .gap (writeField label value below)
      ((writing labelExpr valueExpr below).tokens ++ [mark ';']) .gap := by
  have hopen : Scanned .gap "write_field(out, "
      [word "write_field", mark '(', word "out", mark ','] .gap := by decide
  have htext : writeField label value below = "write_field(out, " ++
      (label ++ (", " ++ (value ++ (", " ++ (depthExpression below ++ ")?;"))))) := by
    unfold writeField
    simp only [String.append_assoc]
  have htokens : (writing labelExpr valueExpr below).tokens ++ [mark ';'] =
      [word "write_field", mark '(', word "out", mark ','] ++ (labelExpr.tokens ++
        ([mark ','] ++ (valueExpr.tokens ++ ([mark ','] ++ ((depthAt below).tokens ++
          [mark ')', mark '?', mark ';']))))) := by
    simp only [writing, Expr.tokens, Expr.argumentTokens, Expr.followingTokens, pathTokens,
      List.cons_append, List.nil_append, List.append_assoc]
  rw [htext, htokens]
  exact hopen.append (hlabel.append (scanned_comma.append (hvalue.append
    (scanned_comma.append (scanned_depthExpression below)))))

lemma scanned_printCall {node : String} {nodeExpr : Expr}
    (hnode : Scanned .gap node nodeExpr.tokens .gap) (below : Nat) :
    Scanned .gap (printCall node below)
      ((printing nodeExpr below).tokens ++ [mark ';']) .gap := by
  have hopen : Scanned .gap "print_node(out, "
      [word "print_node", mark '(', word "out", mark ','] .gap := by decide
  have htext : printCall node below =
      "print_node(out, " ++ (node ++ (", " ++ (depthExpression below ++ ")?;"))) := by
    unfold printCall
    simp only [String.append_assoc]
  have htokens : (printing nodeExpr below).tokens ++ [mark ';'] =
      [word "print_node", mark '(', word "out", mark ','] ++ (nodeExpr.tokens ++
        ([mark ','] ++ ((depthAt below).tokens ++ [mark ')', mark '?', mark ';']))) := by
    simp only [printing, Expr.tokens, Expr.argumentTokens, Expr.followingTokens, pathTokens,
      List.cons_append, List.nil_append, List.append_assoc]
  rw [htext, htokens]
  exact hopen.append (hnode.append (scanned_comma.append (scanned_depthExpression below)))

/-- A field is read by its quoted name, which stands between the method and the other arguments. -/
lemma scanned_reading {opening closing method : String} {others : List Expr} (field : String)
    (hopen : Scanned .gap opening [word "node", mark '.', word method, mark '('] .gap)
    (hclose : Scanned .gap closing
      (Expr.followingTokens others ++ [mark ')', mark '?']) .gap) :
    Scanned .gap (opening ++ (quote field ++ closing)) (reading method field others).tokens .gap := by
  have htokens : (reading method field others).tokens =
      [word "node", mark '.', word method, mark '('] ++ ([literal field] ++
        (Expr.followingTokens others ++ [mark ')', mark '?'])) := by
    simp only [reading, Expr.tokens, Expr.argumentTokens, pathTokens, List.cons_append,
      List.nil_append, List.append_assoc]
  rw [htokens]
  exact hopen.append ((scanned_quote field).append hclose)

lemma scanned_valueText (form : ValueForm) :
    Scanned .gap ("&value." ++ form.call) (valueText form).tokens .gap := by
  cases form <;> decide

lemma scannedLines_writing {label value : String} {labelExpr valueExpr : Expr} (level : Nat)
    (hlabel : Scanned .gap label labelExpr.tokens .gap)
    (hvalue : Scanned .gap value valueExpr.tokens .gap) (below : Nat) :
    ScannedLines [sourceLine level (writeField label value below)]
      (Command.run (writing labelExpr valueExpr below)).tokens :=
  scannedLines_sourceLine level (scanned_writeField hlabel hvalue below)

lemma scanned_label (label : String) :
    Scanned .gap (quote label) (Expr.text label).tokens .gap :=
  scanned_quote label

lemma scannedLines_printing {node : String} {nodeExpr : Expr} (level : Nat)
    (hnode : Scanned .gap node nodeExpr.tokens .gap) (below : Nat) :
    ScannedLines [sourceLine level (printCall node below)]
      (Command.run (printing nodeExpr below)).tokens :=
  scannedLines_sourceLine level (scanned_printCall hnode below)

lemma scannedLines_binding {opening closing name method : String} {others : List Expr}
    (field : String)
    (hopen : Scanned .gap opening
      [word "let", word name, mark '=', word "node", mark '.', word method, mark '('] .gap)
    (hclose : Scanned .gap closing
      (Expr.followingTokens others ++ [mark ')', mark '?', mark ';']) .gap) :
    ScannedLines [sourceLine 3 (opening ++ (quote field ++ closing))]
      (Command.bind name (reading method field others)).tokens := by
  have htokens : (Command.bind name (reading method field others)).tokens =
      [word "let", word name, mark '=', word "node", mark '.', word method, mark '('] ++
        ([literal field] ++
          (Expr.followingTokens others ++ [mark ')', mark '?', mark ';'])) := by
    simp only [Command.tokens, reading, Expr.tokens, Expr.argumentTokens, pathTokens,
      List.cons_append, List.nil_append, List.append_assoc]
  rw [htokens]
  exact scannedLines_sourceLine 3 (hopen.append ((scanned_quote field).append hclose))

lemma scannedLines_each (opening : String) {lines names : List String} {source : Expr}
    {body : List Expr}
    (hopen : Scanned .gap opening
      (word "for" :: (patternTokens names ++ word "in" :: (source.tokens ++ [mark '{']))) .gap)
    (hbody : ScannedLines lines (body.flatMap fun value => (Command.run value).tokens)) :
    ScannedLines (sourceLine 3 opening :: (lines ++ [sourceLine 3 "\x7d"]))
      (Command.each names source body).tokens := by
  have hclose : Scanned .gap "\x7d" [mark '}'] .gap := by decide
  have htokens : (Command.each names source body).tokens =
      (word "for" :: (patternTokens names ++ word "in" :: (source.tokens ++ [mark '{']))) ++
        ((body.flatMap fun value => (Command.run value).tokens) ++ [mark '}']) := by
    simp only [Command.tokens, List.cons_append, List.nil_append, List.append_assoc]
  rw [htokens]
  exact (scannedLines_sourceLine 3 hopen).append
    (hbody.append (scannedLines_sourceLine 3 hclose))

lemma ScannedLines.cons {front back : List String} {command : Command} {commands : List Command}
    (hf : ScannedLines front command.tokens)
    (hb : ScannedLines back (commands.flatMap Command.tokens)) :
    ScannedLines (front ++ back) ((command :: commands).flatMap Command.tokens) :=
  hf.append hb

lemma scannedLines_collection (opening : String) {binding marker name : String} {reader : Expr}
    {lines names : List String} {body : List Expr}
    (hbind : ScannedLines [sourceLine 3 binding] (Command.bind name reader).tokens)
    (hcount : Scanned .gap ("&format!(\"" ++ marker ++ "[\x7b\x7d]\", " ++ name ++ ".len())")
      (Expr.reference (.format (marker ++ "[\x7b\x7d]")
        [.method (.path [name]) "len" []])).tokens .gap)
    (hopen : Scanned .gap opening (word "for" ::
      (patternTokens names ++ word "in" :: ((Expr.path [name]).tokens ++ [mark '{']))) .gap)
    (hbody : ScannedLines lines (body.flatMap fun value => (Command.run value).tokens))
    (countBelow : Nat) :
    ScannedLines (sourceLine 3 binding :: sourceLine 3 (writeCount marker name countBelow) ::
        sourceLine 3 opening :: (lines ++ [sourceLine 3 "\x7d"]))
      ([Command.bind name reader, .run (counting marker name countBelow),
        .each names (.path [name]) body].flatMap Command.tokens) := by
  have hwrite : ScannedLines [sourceLine 3 (writeCount marker name countBelow)]
      (Command.run (counting marker name countBelow)).tokens :=
    scannedLines_writing 3 hcount scanned_emptyText countBelow
  have hloop : ScannedLines (sourceLine 3 opening :: (lines ++ [sourceLine 3 "\x7d"]))
      ([Command.each names (.path [name]) body].flatMap Command.tokens) := by
    rw [List.flatMap_cons, List.flatMap_nil, List.append_nil]
    exact scannedLines_each opening hopen hbody
  exact hbind.cons (hwrite.cons hloop)

lemma scanned_scalarText (field : String) (type : FieldType) :
    Scanned .gap ("&node.scalar(" ++ quote field ++ ", " ++ type.path ++ ")?.canonical()")
      (Expr.reference (.method (reading "scalar" field [typeAt type]) "canonical" [])).tokens
      .gap := by
  have hopen : Scanned .gap "&node.scalar("
      [mark '&', word "node", mark '.', word "scalar", mark '('] .gap := by
    decide
  have hclose : Scanned .gap (", " ++ (type.path ++ ")?.canonical()"))
      (Expr.followingTokens [typeAt type] ++ [mark ')', mark '?', mark '.',
        word "canonical", mark '(', mark ')']) .gap := by
    cases type <;> decide
  have htokens : (Expr.reference (.method (reading "scalar" field [typeAt type])
      "canonical" [])).tokens =
      [mark '&', word "node", mark '.', word "scalar", mark '('] ++ ([literal field] ++
        (Expr.followingTokens [typeAt type] ++ [mark ')', mark '?', mark '.',
          word "canonical", mark '(', mark ')'])) := by
    simp only [reading, Expr.tokens, Expr.argumentTokens, pathTokens, List.cons_append,
      List.nil_append, List.append_assoc]
  rw [String.append_assoc, String.append_assoc, String.append_assoc, htokens]
  exact hopen.append ((scanned_quote field).append hclose)

lemma scannedLines_statement (statement : Statement) :
    ScannedLines statement.sourceLines (statement.commands.flatMap Command.tokens) := by
  have hquestion : Scanned .gap ")?" [mark ')', mark '?'] .gap := by decide
  have hend : Scanned .gap ")?;" [mark ')', mark '?', mark ';'] .gap := by decide
  have hitem : Scanned .gap "Some(item)" (Expr.call ["Some"] [.path ["item"]]).tokens .gap := by
    decide
  cases statement with
  | heading label below =>
    exact (scannedLines_writing 3 (scanned_label label) scanned_emptyText below).cons .nil
  | identifier label field below =>
    have hname : Scanned .gap ("node.identifier(" ++ quote field ++ ")?")
        (reading "identifier" field []).tokens .gap := by
      rw [String.append_assoc]
      exact scanned_reading field (by decide) hquestion
    exact (scannedLines_writing 3 (scanned_label label) hname below).cons .nil
  | scalar label field type below =>
    exact (scannedLines_writing 3 (scanned_label label) (scanned_scalarText field type)
      below).cons .nil
  | scalars field type countBelow label form below =>
    have hbind : ScannedLines [sourceLine 3 ("let values = node.scalar_list(" ++ quote field ++
        ", " ++ type.path ++ ")?;")]
        (Command.bind "values" (reading "scalar_list" field [typeAt type])).tokens := by
      rw [String.append_assoc, String.append_assoc, String.append_assoc]
      exact scannedLines_binding field (by decide) (by cases type <;> decide)
    have hline := scannedLines_writing 4 (scanned_label label) (scanned_valueText form) below
    have hlines : ScannedLines _ ((Statement.scalars field type countBelow label form
        below).commands.flatMap Command.tokens) :=
      scannedLines_collection "for value in values \x7b" hbind (by decide)
        (by decide) (hline.append .nil) countBelow
    exact hlines
  | child field below =>
    have hchild : Scanned .gap ("node.child(" ++ quote field ++ ")?")
        (reading "child" field []).tokens .gap := by
      rw [String.append_assoc]
      exact scanned_reading field (by decide) hquestion
    exact (scannedLines_printing 3 hchild below).cons .nil
  | children field countBelow below =>
    have hbind : ScannedLines [sourceLine 3 ("let items = node.child_list(" ++ quote field ++
        ")?;")] (Command.bind "items" (reading "child_list" field [])).tokens := by
      rw [String.append_assoc]
      exact scannedLines_binding field (by decide) hend
    have hprint := scannedLines_printing 4 hitem below
    have hlines : ScannedLines _ ((Statement.children field countBelow
        below).commands.flatMap Command.tokens) :=
      scannedLines_collection "for item in items \x7b" hbind (by decide)
        (by decide) (hprint.append .nil) countBelow
    exact hlines
  | dict field countBelow keyBelow below =>
    have hbind : ScannedLines [sourceLine 3 ("let entries = node.child_map(" ++ quote field ++
        ")?;")] (Command.bind "entries" (reading "child_map" field [])).tokens := by
      rw [String.append_assoc]
      exact scannedLines_binding field (by decide) hend
    have hkey : Scanned .gap "&format!(\"[\x7bkey\x7d]\")"
        (Expr.reference (.format "[\x7bkey\x7d]" [])).tokens .gap := by
      decide
    have hheading := scannedLines_writing 4 hkey scanned_emptyText keyBelow
    have hprint := scannedLines_printing 4 hitem below
    have hlines : ScannedLines _ ((Statement.dict field countBelow keyBelow
        below).commands.flatMap Command.tokens) :=
      scannedLines_collection "for (key, item) in entries \x7b" hbind (by decide)
        (by decide) (hheading.append (hprint.append .nil)) countBelow
    exact hlines

lemma scannedLines_arm (arm : Arm) : ScannedLines arm.sourceLines (Arm.branch arm).tokens := by
  have harrow : Scanned .gap " => \x7b" [mark '=', mark '>', mark '{'] .gap := by decide
  have hclose : Scanned .gap "\x7d" [mark '}'] .gap := by decide
  have hbody := ScannedLines.flatMap scannedLines_statement arm.body
  have htokens : (Arm.branch arm).tokens =
      ([literal arm.tag] ++ [mark '=', mark '>', mark '{']) ++
        (arm.body.flatMap (fun statement => statement.commands.flatMap Command.tokens) ++
          [mark '}']) := by
    simp only [Arm.branch, Branch.tokens, List.flatMap_assoc, List.cons_append, List.nil_append]
  rw [htokens]
  exact (scannedLines_sourceLine 2 ((scanned_quote arm.tag).append harrow)).append
    (hbody.append (scannedLines_sourceLine 2 hclose))

instance (lines : List String) (tokens : List Token) : Decidable (ScannedLines lines tokens) :=
  inferInstanceAs (Decidable
    (Place.gap.scan (lines.flatMap fun line => line.toList ++ ['\n']) = some (tokens, .gap)))

lemma scannedLines_program (program : Program) :
    ScannedLines program.sourceLines program.tokens := by
  have hhead : ScannedLines Program.headLines Program.headTokens := by decide +kernel
  have htypes : ScannedLines (if program.importsTypes then [Program.typesImport] else [])
      (if program.importsTypes then Program.typesTokens else []) := by
    split <;> decide
  have hopening : ScannedLines Program.openingLines Program.frame.openingTokens := by
    decide +kernel
  have harms := ScannedLines.flatMap scannedLines_arm program.arms
  have hclosing : ScannedLines Program.closingLines Program.frame.closingTokens := by
    decide +kernel
  have hlines : program.sourceLines = Program.headLines ++
      ((if program.importsTypes then [Program.typesImport] else []) ++
        (Program.openingLines ++ (program.arms.flatMap Arm.sourceLines ++ Program.closingLines))) := by
    simp only [Program.sourceLines, List.append_assoc]
  have htokens : program.tokens = Program.headTokens ++
      ((if program.importsTypes then Program.typesTokens else []) ++
        (Program.frame.openingTokens ++ (program.arms.flatMap (fun arm => (Arm.branch arm).tokens) ++
          Program.frame.closingTokens))) := by
    have hfunction : program.function.tokens = Program.frame.openingTokens ++
        ((program.arms.map Arm.branch).flatMap Branch.tokens ++ Program.frame.closingTokens) := rfl
    rw [Program.tokens, hfunction, List.flatMap_map]
  rw [hlines, htokens]
  exact hhead.append (htypes.append (hopening.append (harms.append hclosing)))

end Source

open Source

namespace Program

/-- The source text of a program is read as the program's file. -/
theorem ofText?_source (program : Program) : File.ofText? program.source = some program.file := by
  have hscan : tokens? program.source = some program.tokens := by
    have hlast : Place.gap.scan ['\n'] = some ([], .gap) := rfl
    unfold tokens? source
    rw [String.toList_ofList, Place.scan_append, scannedLines_program program, Option.bind_some,
      hlast]
    simp
  rw [File.ofText?, hscan, Option.bind_some, ofTokens?_tokens]

end Program

end TreeDump
