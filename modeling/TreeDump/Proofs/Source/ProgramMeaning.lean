import TreeDump.Proofs.Source.ProgramExpressions

/-!
# The meaning of printer programs

The commands that a statement stands for do what the statement does, in any ready scope and whatever
follows them. So the file of a program prints every tree as the program does, and in particular it
always has a meaning.
-/

namespace TreeDump

namespace Source

/-- Commands do a dump, whatever follows them in a scope that is still ready. -/
def Performs (program : Program) (node : Layer Print) (depth : Nat) (commands : List Command)
    (dump : DumpM Unit) : Prop :=
  ∀ scope, Ready program node depth scope → ∀ {α : Type} (next : Scope → Run α) (result : Run α),
    (∀ after, Ready program node depth after → next after = result) →
      commands.foldlM Command.execute scope >>= next = Run.ofDump dump >>= fun _ => result

namespace Performs

variable {program : Program} {node : Layer Print} {depth : Nat}

lemma nil : Performs program node depth [] (pure ()) := by
  intro scope h α next result hnext
  exact hnext scope h

lemma append {front back : List Command} {first second : DumpM Unit}
    (hfront : Performs program node depth front first)
    (hback : Performs program node depth back second) :
    Performs program node depth (front ++ back) (first >>= fun _ => second) := by
  intro scope h α next result hnext
  have hrest : ∀ after, Ready program node depth after →
      back.foldlM Command.execute after >>= next = Run.ofDump second >>= fun _ => result :=
    fun after hafter => hback after hafter next result hnext
  rw [List.foldlM_append, bind_assoc, hfront scope h _ _ hrest, Run.ofDump_bind, bind_assoc]

lemma run {value : Expr} {dump : DumpM Unit}
    (hvalue : ∀ scope, Ready program node depth scope →
      value.eval scope = Run.ofDump dump >>= fun _ => pure .unit) :
    Performs program node depth [.run value] dump := by
  intro scope h α next result hnext
  simp only [List.foldlM_cons, List.foldlM_nil, Command.execute, hvalue scope h, bind_assoc,
    pure_bind, hnext scope h]

/-- A field of the node is read, its elements are counted, and each of them has its lines. -/
lemma collection {α ι : Type} {name marker : String} {reader : Expr}
    {read : Except DumpError α} {value : α → Value} {size : α → Nat} {label : Nat → String}
    {items : α → List ι} {names : List String} {round : ι → List (String × Value)}
    {body : List Expr} {print : ι → DumpM Unit} {below : Nat} (hname : name ∉ reserved)
    (hreader : ∀ scope, Ready program node depth scope →
      reader.eval scope = Run.ofDump (.ofExcept read) >>= fun found => pure (value found))
    (hsize : ∀ found, (value found).method? "len" [] = some (.number (size found)))
    (hlabel : ∀ (scope : Scope) count,
      scope.format? (marker ++ "[\x7b\x7d]") [.number count] = some (.text (label count)))
    (hrounds : ∀ found, (value found).rounds? names = some ((items found).map round))
    (hbody : ∀ scope, Ready program node depth scope → ∀ item,
      (body.forM fun expr => discard (expr.eval (scope.bindAll (round item)))) =
        Run.ofDump (print item)) :
    Performs program node depth
      [.bind name reader, .run (counting marker name below), .each names (.path [name]) body]
      (do
        let found ← .ofExcept read
        .heading (label (size found)) (depth + below)
        (items found).forM print) := by
  intro scope h α next result hnext
  have hfound : ∀ found, Ready program node depth (scope.bind name (value found)) :=
    fun found => h.bind (value found) hname
  have hlookup : ∀ found, (scope.bind name (value found)).bindings.lookup name =
      some (value found) := fun found => List.lookup_cons_self
  have hcount : ∀ found, (counting marker name below).eval (scope.bind name (value found)) =
      Run.ofDump (.heading (label (size found)) (depth + below)) >>= fun _ => pure .unit :=
    fun found => (hfound found).eval_counting (hlookup found) (hsize found) (hlabel _ _) below
  have hpath : ∀ found, Run.ofOption ((scope.bind name (value found)).path? [name]) =
      pure (value found) := by
    intro found
    rw [Scope.path?, hlookup]
    rfl
  have hof : ∀ rounds : List (List (String × Value)), Run.ofOption (some rounds) = pure rounds :=
    fun _ => rfl
  have hloop : ∀ found, ((items found).map round).forM (fun entry =>
      body.forM fun expr => discard (expr.eval ((scope.bind name (value found)).bindAll entry))) =
        Run.ofDump ((items found).forM print) := by
    intro found
    exact Run.ofDump_forM (items found) (hbody _ (hfound found))
  simp only [List.foldlM_cons, List.foldlM_nil, Command.execute, hreader scope h, bind_assoc,
    pure_bind, hcount, Expr.eval, hpath, hrounds, hof, hloop, Run.ofDump_bind,
    hnext _ (hfound _)]

end Performs

namespace Ready

variable {program : Program} {node : Layer Print} {depth : Nat} {scope : Scope}

lemma eval_value (h : Ready program node depth scope) (label : String) (form : ValueForm)
    (value : Scalar) (below : Nat) :
    ([writing (.text label) (valueText form) below].forM fun expr =>
      discard (expr.eval (scope.bindAll [("value", .scalar value)]))) =
        Run.ofDump (.field label (form.apply value) (depth + below)) := by
  have hround : Ready program node depth (scope.bindAll [("value", .scalar value)]) :=
    h.bindAll _ (by simp [reserved])
  have hvalue : (valueText form).eval (scope.bindAll [("value", .scalar value)]) =
      pure (.text (form.apply value)) := by
    cases form <;> rfl
  have hline : (writing (.text label) (valueText form) below).eval
      (scope.bindAll [("value", .scalar value)]) =
        Run.ofDump (.field label (form.apply value) (depth + below)) >>= fun _ => pure .unit :=
    hround.eval_line rfl hvalue below
  rw [List.forM, List.forM, hline, Run.discard_ofDump, bind_pure_unit]

lemma eval_item (h : Ready program node depth scope) {print : Print}
    (hitem : scope.bindings.lookup "item" = some (.subtree (carried print))) (below : Nat) :
    (printing (.call ["Some"] [.path ["item"]]) below).eval scope =
      Run.ofDump (print (depth + below)) >>= fun _ => pure .unit := by
  have hpath : (Expr.path ["item"]).eval scope = pure (.subtree (carried print)) := by
    rw [Expr.eval, Scope.path?, hitem]
    rfl
  have hsome : (Expr.call ["Some"] [.path ["item"]]).eval scope =
      Run.ofDump (pure (some print)) >>= fun child =>
        pure (.option (child.map fun print => .subtree (carried print))) := by
    rw [Expr.eval, Expr.evalAll, Expr.evalAll, hpath]
    rfl
  exact h.eval_printing hsome below

lemma eval_each (h : Ready program node depth scope) (print : Print) (below : Nat) :
    ([printing (.call ["Some"] [.path ["item"]]) below].forM fun expr =>
      discard (expr.eval (scope.bindAll [("item", .subtree (carried print))]))) =
        Run.ofDump (print (depth + below)) := by
  have hround : Ready program node depth (scope.bindAll [("item", .subtree (carried print))]) :=
    h.bindAll _ (by simp [reserved])
  rw [List.forM, List.forM, hround.eval_item rfl below, Run.discard_ofDump, bind_pure_unit]

lemma eval_entry (h : Ready program node depth scope) (entry : String × Print)
    (keyBelow below : Nat) :
    ([writing (.reference (.format "[\x7bkey\x7d]" [])) (.text "") keyBelow,
        printing (.call ["Some"] [.path ["item"]]) below].forM fun expr =>
      discard (expr.eval (scope.bindAll
        [("key", .text entry.1), ("item", .subtree (carried entry.2))]))) =
        Run.ofDump (do
          .heading (keyLabel entry.1) (depth + keyBelow)
          entry.2 (depth + below)) := by
  have hround : Ready program node depth
      (scope.bindAll [("key", .text entry.1), ("item", .subtree (carried entry.2))]) :=
    h.bindAll _ (by simp [reserved])
  have hlabel : (Expr.reference (.format "[\x7bkey\x7d]" [])).eval
      (scope.bindAll [("key", .text entry.1), ("item", .subtree (carried entry.2))]) =
        pure (.text (keyLabel entry.1)) := by
    have hkey := format?_key
      (scope.bindAll [("key", .text entry.1), ("item", .subtree (carried entry.2))]) entry.1 rfl
    simp only [Expr.eval, Expr.evalAll, pure_bind, hkey]
    rfl
  have hkey := hround.eval_heading hlabel keyBelow
  have hitem := hround.eval_item rfl below
  rw [List.forM, List.forM, List.forM, hkey, hitem, Run.discard_ofDump, Run.discard_ofDump,
    Run.ofDump_bind, bind_pure_unit]

end Ready

def namesType : Statement → Bool
  | .scalar .. => true
  | .scalars .. => true
  | _ => false

section

variable {program : Program} {node : Layer Print} {depth : Nat}

/-- The commands of a statement do what the statement does. -/
theorem performs_statement (statement : Statement)
    (htypes : namesType statement = true → program.importsTypes = true) :
    Performs program node depth statement.commands (statement.run node depth) := by
  cases statement with
  | heading label below =>
    apply Performs.run
    intro scope h
    exact h.eval_heading rfl below
  | identifier label field below =>
    apply Performs.run
    intro scope h
    exact h.eval_writing rfl (h.eval_identifier field) below
  | scalar label field type below =>
    apply Performs.run
    intro scope h
    have hvalue : (Expr.reference (.method (reading "scalar" field [typeAt type]) "canonical"
        [])).eval scope =
          Run.ofDump (.ofExcept (node.readScalar field type) >>= fun value =>
            pure value.canonical) >>= fun text => pure (.text text) := by
      simp only [Expr.eval, Expr.evalAll, h.eval_scalar (htypes rfl), bind_assoc, pure_bind,
        Run.ofDump_bind, Run.ofDump_pure]
      rfl
    have hlabel : (Expr.text label).eval scope = pure (.text label) := rfl
    have hwriting := h.eval_writing hlabel hvalue below
    rw [bind_assoc] at hwriting
    exact hwriting
  | scalars field type countBelow label form below =>
    apply Performs.collection (by simp [reserved])
    · intro scope h
      exact h.eval_scalars (htypes rfl) field type
    · intro found
      rfl
    · exact format?_list
    · intro found
      rfl
    · intro scope h value
      exact h.eval_value label form value below
  | child field below =>
    apply Performs.run
    intro scope h
    exact h.eval_printing (h.eval_child field) below
  | children field countBelow below =>
    apply Performs.collection (by simp [reserved])
    · intro scope h
      exact h.eval_children field
    · intro found
      exact congrArg (some ∘ Value.number) (List.length_map carried)
    · exact format?_list
    · intro found
      exact congrArg some List.map_map
    · intro scope h print
      exact h.eval_each print below
  | dict field countBelow keyBelow below =>
    apply Performs.collection (by simp [reserved])
    · intro scope h
      exact h.eval_dict field
    · intro found
      exact congrArg (some ∘ Value.number) (List.length_map _)
    · exact format?_dict
    · intro found
      exact congrArg some List.map_map
    · intro scope h entry
      exact h.eval_entry entry keyBelow below

lemma performs_body (body : List Statement)
    (htypes : ∀ statement ∈ body, namesType statement = true → program.importsTypes = true) :
    Performs program node depth (body.flatMap Statement.commands)
      (body.forM (Statement.run node depth)) := by
  induction body with
  | nil => exact Performs.nil
  | cons statement body ih =>
    rw [List.flatMap_cons, List.forM]
    exact (performs_statement statement (htypes statement (by simp))).append
      (ih fun s hs => htypes s (by simp [hs]))

end

/-! ### The function -/

/-- A program that imports the types if one of its statements names a type. -/
def Typed (program : Program) : Prop :=
  ∀ arm ∈ program.arms, ∀ statement ∈ arm.body,
    namesType statement = true → program.importsTypes = true

section

variable {program : Program}

lemma find?_branches (arms : List Arm) (tag : String) :
    ((arms.map Arm.branch).find? fun branch => branch.pattern = tag) =
      (arms.find? fun arm => arm.tag = tag).map Arm.branch := by
  rw [List.find?_map]
  rfl

lemma eval_otherwise {scope : Scope} (himports : scope.imports = program.imports) (tag : String) :
    Program.frame.otherwise.eval (scope.bind "tag" (.text tag)) =
      throw (.error (.dispatchMismatch tag)) := by
  have himport : ["astdump_core", "error", "DumpError"] ∈
      (scope.bind "tag" (.text tag)).imports := by
    change _ ∈ scope.imports
    rw [himports]
    exact List.mem_append_left _ (by simp [Program.headImports])
  have hmismatch : (scope.bind "tag" (.text tag)).callOf ["DumpError", "DispatchMismatch"]
      [.text tag] = pure (.error (.dispatchMismatch tag)) := by
    rw [Scope.callOf, if_pos himport]
  have htag : (Expr.method (.path ["tag"]) "to_string" []).eval (scope.bind "tag" (.text tag)) =
      pure (.text tag) := by
    simp only [Expr.eval, Expr.evalAll, Scope.path?, Scope.bind, List.lookup_cons_self]
    rfl
  rw [Program.frame, Expr.eval, Expr.eval, Expr.evalAll, Expr.evalAll, Expr.eval, Expr.evalAll,
    Expr.evalAll, htag]
  simp only [pure_bind, hmismatch]
  rfl

lemma choose_function (htyped : Typed program) {node : Layer Print} {depth : Nat} {scope : Scope}
    (h : Ready program node (depth + 1) scope) :
    program.function.choose scope (.text node.tag) =
      Run.ofDump (program.printLayer node depth) := by
  unfold Function.choose Program.printLayer
  simp only [Program.function, find?_branches]
  cases harm : program.arms.find? fun arm => arm.tag = node.tag with
  | none =>
    have hleave := eval_otherwise h.imports node.tag
    rw [Option.map_none, Run.discard_eq_bind]
    change Program.frame.otherwise.eval (scope.bind "tag" (.text node.tag)) >>= _ = _
    rw [hleave]
    rfl
  | some arm =>
    have hbody : Performs program node (depth + 1) (arm.body.flatMap Statement.commands)
        (arm.body.forM (Statement.run node (depth + 1))) :=
      performs_body arm.body (htyped arm (List.mem_of_find?_eq_some harm))
    have hrest := hbody scope h (fun _ => pure ()) (pure ()) fun _ _ => rfl
    rw [bind_pure_unit] at hrest
    rw [Option.map_some, Run.discard_eq_bind]
    exact hrest

lemma match_function (htyped : Typed program) {node : Layer Print} {depth : Nat} {scope : Scope}
    (h : Ready program node (depth + 1) scope) :
    (do
      let subject ← program.function.matched.eval scope
      program.function.choose scope subject
      let value ← program.function.value.eval scope
      Run.ofOption value.asResult) =
    Run.ofDump (program.printLayer node depth) >>= fun _ => pure (.ok ()) := by
  have htag : program.function.matched.eval scope = pure (.text node.tag) := by
    have hnode : Run.ofOption (scope.path? ["node"]) = pure (.node (node.mapChildren carried)) :=
      h.eval_node
    simp only [Program.function, Program.frame, Expr.eval, Expr.evalAll, hnode, pure_bind]
    rfl
  rw [htag, pure_bind, choose_function htyped h]
  rfl

/-- The function prints a node as the program does, if it prints the children so. -/
theorem apply_some (htyped : Typed program) {call : Option Subtree → Subtree}
    (hchild : ∀ subtree, call (some subtree) = subtree) (habsent : call none = carried printNone)
    (node : Layer Print) :
    program.function.apply program.imports call (some (node.mapChildren carried)) =
      carried (program.printLayer node) := by
  funext depth
  let scope : Scope := ⟨program.imports, call, [("out", .sink),
    ("node", .option (some (.node (node.mapChildren carried)))), ("depth", .number depth)]⟩
  let inner : Scope := (scope.bind "node" (.node (node.mapChildren carried))).bind "depth"
    (.number (depth + 1))
  have hready : Ready program node (depth + 1) inner := {
    imports := rfl
    out := rfl
    node := rfl
    depth := rfl
    child := hchild
    absent := habsent }
  have hopening : program.function.apply program.imports call
      (some (node.mapChildren carried)) depth =
    Run.finish (do
      let subject ← program.function.matched.eval inner
      program.function.choose inner subject
      let value ← program.function.value.eval inner
      Run.ofOption value.asResult) := rfl
  rw [hopening, match_function htyped hready, Run.finish_ofDump]
  rfl

/-- The function prints a missing node as `None`. -/
theorem apply_none (call : Option Subtree → Subtree) :
    program.function.apply program.imports call none = carried printNone := by
  funext depth
  have himport : ["astdump_core", "printer", "write_field"] ∈ program.imports :=
    List.mem_append_left _ (by simp [Program.headImports])
  let scope : Scope := ⟨program.imports, call, [("out", .sink), ("node", .option none),
    ("depth", .number depth)]⟩
  have habsent : Program.frame.absent.eval scope =
      (Value.ofResult <$> Run.ofAction (actionOf (printNone depth))) >>= Value.leave := by
    have hcall : scope.callOf ["write_field"] [.sink, .text "None", .text "", .number (depth + 1)] =
        Value.ofResult <$> Run.ofAction (actionOf (printNone depth)) := by
      rw [Scope.callOf, if_pos himport]
      rfl
    rw [← hcall]
    rfl
  have hopening : program.function.apply program.imports call none depth =
      Run.finish (Program.frame.absent.eval scope >>= fun _ => Run.stuck) := rfl
  rw [hopening, habsent, Run.finish_leave]
  rfl

lemma printAbsent_file (program : Program) : program.file.printAbsent = carried printNone :=
  apply_none _

lemma printLayer_file (htyped : Typed program) (node : Layer Print) :
    program.file.printLayer (node.mapChildren carried) = carried (program.printLayer node) :=
  apply_some htyped (fun _ => rfl) (printAbsent_file program) node

/-- The file of a program that imports what it names prints every tree as the program does. -/
theorem printNode_file (htyped : Typed program) (node : Option Node) (depth : Nat) :
    program.file.printNode node depth = actionOf (program.printNode node depth) := by
  have himports : File.signatureImports.all (· ∈ program.file.imports) = true := by
    have hhead : ∀ path ∈ File.signatureImports, path ∈ Program.headImports := by decide
    rw [List.all_eq_true]
    intro path hpath
    exact decide_eq_true (List.mem_append_left _ (hhead path hpath))
  rw [File.printNode, if_pos himports]
  cases node with
  | none => exact congrFun (printAbsent_file program) depth
  | some node =>
    have hfold := Node.fold_comp carried (printLayer_file htyped) node
    exact congrFun hfold depth

end

end Source

end TreeDump
