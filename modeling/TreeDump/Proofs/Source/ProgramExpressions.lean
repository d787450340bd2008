import TreeDump.Program.Print
import TreeDump.Proofs.Source.ProgramSyntax
import TreeDump.Proofs.Source.Running
import TreeDump.Proofs.Tree.Folding

/-!
# The expressions of printer programs

A scope is ready for a node if it shows the node, its depth and the sink, and if calls of the
function print what is below the node. In such a scope the expressions of a program do what the
dumps do that they stand for, and the texts with counts and keys are the labels of those dumps.
-/

namespace TreeDump

namespace Source

/-- A subtree that is printed by a dump. -/
def carried (print : Print) : Subtree := fun depth => actionOf (print depth)

/-- How a missing node is printed. -/
def printNone : Print := fun depth => .heading "None" (depth + 1)

/-- A scope of a program's file in which commands print a node whose heading is at a depth. -/
structure Ready (program : Program) (node : Layer Print) (depth : Nat) (scope : Scope) : Prop where
  imports : scope.imports = program.imports
  out : scope.bindings.lookup "out" = some .sink
  node : scope.bindings.lookup "node" = some (.node (node.mapChildren carried))
  depth : scope.bindings.lookup "depth" = some (.number depth)
  child : ∀ subtree, scope.call (some subtree) = subtree
  absent : scope.call none = carried printNone

/-- The names that commands do not bind anew. -/
def reserved : List String := ["out", "node", "depth"]

namespace Ready

variable {program : Program} {node : Layer Print} {depth : Nat} {scope : Scope}

lemma bind (h : Ready program node depth scope) {name : String} (value : Value)
    (hname : name ∉ reserved) : Ready program node depth (scope.bind name value) := by
  have hlookup : ∀ kept ∈ reserved,
      (scope.bind name value).bindings.lookup kept = scope.bindings.lookup kept := by
    intro kept hkept
    have hne : (kept == name) = false := beq_false_of_ne fun he => hname (he ▸ hkept)
    rw [Scope.bind, List.lookup_cons, hne]
  exact {
    imports := h.imports
    out := (hlookup _ (by simp [reserved])).trans h.out
    node := (hlookup _ (by simp [reserved])).trans h.node
    depth := (hlookup _ (by simp [reserved])).trans h.depth
    child := h.child
    absent := h.absent }

lemma bindAll (h : Ready program node depth scope) (round : List (String × Value))
    (hround : ∀ entry ∈ round, entry.1 ∉ reserved) : Ready program node depth (scope.bindAll round) := by
  induction round with
  | nil => exact h
  | cons entry round ih =>
    exact (ih fun e he => hround e (by simp [he])).bind entry.2 (hround entry (by simp))

attribute [local simp] Expr.eval Expr.evalAll Scope.path? Scope.callOf Value.method?

lemma eval_out (h : Ready program node depth scope) : (Expr.path ["out"]).eval scope = pure .sink := by
  rw [Expr.eval, Scope.path?, h.out]
  rfl

lemma eval_node (h : Ready program node depth scope) :
    (Expr.path ["node"]).eval scope = pure (.node (node.mapChildren carried)) := by
  rw [Expr.eval, Scope.path?, h.node]
  rfl

lemma eval_depthAt (h : Ready program node depth scope) (below : Nat) :
    (depthAt below).eval scope = pure (.number (depth + below)) := by
  have hdepth : (Expr.path ["depth"]).eval scope = pure (.number depth) := by
    rw [Expr.eval, Scope.path?, h.depth]
    rfl
  cases below with
  | zero => exact hdepth
  | succ below =>
    rw [depthAt, Expr.eval, hdepth, Expr.eval]
    rfl

/-- A field is written as by the dump, after what is done for its value. -/
lemma eval_writing (h : Ready program node depth scope) {labelExpr valueExpr : Expr} {label : String}
    {text : DumpM String} (hlabel : labelExpr.eval scope = pure (.text label))
    (hvalue : valueExpr.eval scope = Run.ofDump text >>= fun value => pure (.text value))
    (below : Nat) :
    (writing labelExpr valueExpr below).eval scope =
      Run.ofDump (text >>= fun value => .field label value (depth + below)) >>=
        fun _ => pure .unit := by
  have hcall : ∀ value, scope.callOf ["write_field"]
      [.sink, .text label, .text value, .number (depth + below)] =
        Value.ofResult <$> Run.ofAction (actionOf (.field label value (depth + below))) := by
    intro value
    have himport : ["astdump_core", "printer", "write_field"] ∈ scope.imports := by
      rw [h.imports]
      exact List.mem_append_left _ (by simp [Program.headImports])
    simp only [Scope.callOf]
    rw [if_pos himport]
  simp only [writing, Expr.eval, Expr.evalAll, h.eval_depthAt below, hlabel, hvalue, pure_bind,
    bind_assoc, Run.ofDump_bind]
  have hout : Run.ofOption (scope.path? ["out"]) = pure .sink := h.eval_out
  simp only [hout, pure_bind, hcall, Run.attempt_ofAction]

lemma eval_reading (h : Ready program node depth scope) {α : Type} {method field : String}
    {others : List Expr} {values : List Value} {read : Except DumpError α} {value : α → Value}
    (hothers : Expr.evalAll scope others = pure values)
    (hread : (Value.node (node.mapChildren carried)).method? method (.text field :: values) =
      some (.result (read.map value))) :
    (reading method field others).eval scope =
      Run.ofDump (.ofExcept read) >>= fun found => pure (value found) := by
  have hnode : Run.ofOption (scope.path? ["node"]) = pure (.node (node.mapChildren carried)) :=
    h.eval_node
  have hvalue : ∀ result, Run.ofOption (some (Value.result result)) = pure (.result result) :=
    fun _ => rfl
  simp only [reading, Expr.eval, Expr.evalAll, hnode, hothers, pure_bind, hread, hvalue,
    Run.attempt_read]

lemma eval_typeAt (h : Ready program node depth scope) (htypes : program.importsTypes = true)
    (type : FieldType) : Expr.evalAll scope [typeAt type] = pure [.type type] := by
  have himport : ["astdump_core", "types", "FieldType"] ∈ scope.imports := by
    rw [h.imports, Program.imports, if_pos htypes]
    simp
  have hpath : ∀ variant, scope.path? ["FieldType", variant] =
      (typeOfVariant? variant).map Value.type := by
    intro variant
    rw [Scope.path?, if_pos himport]
  cases type <;> simp only [typeAt, Expr.evalAll, Expr.eval, hpath] <;> rfl

lemma eval_identifier (h : Ready program node depth scope) (field : String) :
    (reading "identifier" field []).eval scope =
      Run.ofDump (.ofExcept (node.readIdentifier field)) >>= fun found => pure (.text found) :=
  h.eval_reading rfl (by simp)

lemma eval_scalar (h : Ready program node depth scope) (htypes : program.importsTypes = true)
    (field : String) (type : FieldType) :
    (reading "scalar" field [typeAt type]).eval scope =
      Run.ofDump (.ofExcept (node.readScalar field type)) >>= fun found => pure (.scalar found) :=
  h.eval_reading (h.eval_typeAt htypes type) (by simp)

lemma eval_scalars (h : Ready program node depth scope) (htypes : program.importsTypes = true)
    (field : String) (type : FieldType) :
    (reading "scalar_list" field [typeAt type]).eval scope =
      Run.ofDump (.ofExcept (node.readScalars field type)) >>= fun found => pure (.scalars found) :=
  h.eval_reading (h.eval_typeAt htypes type) (by simp)

lemma eval_child (h : Ready program node depth scope) (field : String) :
    (reading "child" field []).eval scope =
      Run.ofDump (.ofExcept (node.readChild field)) >>= fun found =>
        pure (.option (found.map fun print => .subtree (carried print))) := by
  apply h.eval_reading rfl
  simp only [Value.method?, Layer.readChild_mapChildren]
  rcases node.readChild field with _ | _ | _ <;> rfl

lemma eval_children (h : Ready program node depth scope) (field : String) :
    (reading "child_list" field []).eval scope =
      Run.ofDump (.ofExcept (node.readChildren field)) >>= fun found =>
        pure (.subtrees (found.map carried)) := by
  apply h.eval_reading rfl
  simp only [Value.method?, Layer.readChildren_mapChildren]
  cases node.readChildren field <;> rfl

lemma eval_dict (h : Ready program node depth scope) (field : String) :
    (reading "child_map" field []).eval scope =
      Run.ofDump (.ofExcept (node.readDict field)) >>= fun found =>
        pure (.entries (found.map carried)) := by
  apply h.eval_reading rfl
  simp only [Value.method?, Layer.readDict_mapChildren]
  cases node.readDict field <;> rfl

lemma eval_line (h : Ready program node depth scope) {labelExpr valueExpr : Expr}
    {label text : String} (hlabel : labelExpr.eval scope = pure (.text label))
    (hvalue : valueExpr.eval scope = pure (.text text)) (below : Nat) :
    (writing labelExpr valueExpr below).eval scope =
      Run.ofDump (.field label text (depth + below)) >>= fun _ => pure .unit := by
  have hpure : valueExpr.eval scope =
      Run.ofDump (pure text) >>= fun value => pure (.text value) := hvalue
  exact h.eval_writing hlabel hpure below

lemma eval_heading (h : Ready program node depth scope) {labelExpr : Expr} {label : String}
    (hlabel : labelExpr.eval scope = pure (.text label)) (below : Nat) :
    (writing labelExpr (.text "") below).eval scope =
      Run.ofDump (.heading label (depth + below)) >>= fun _ => pure .unit :=
  h.eval_line hlabel rfl below

lemma eval_printing (h : Ready program node depth scope) {nodeExpr : Expr}
    {found : DumpM (Option Print)}
    (hnode : nodeExpr.eval scope = Run.ofDump found >>= fun child =>
      pure (.option (child.map fun print => .subtree (carried print)))) (below : Nat) :
    (printing nodeExpr below).eval scope =
      Run.ofDump (found >>= fun child => Print.optional child (depth + below)) >>=
        fun _ => pure .unit := by
  have hcall : ∀ child : Option Print, scope.callOf ["print_node"]
      [.sink, .option (child.map fun print => .subtree (carried print)), .number (depth + below)] =
        Value.ofResult <$> Run.ofAction (actionOf (Print.optional child (depth + below))) := by
    intro child
    cases child with
    | none => simp only [Option.map_none, Scope.callOf, h.absent]; rfl
    | some print => simp only [Option.map_some, Scope.callOf, h.child]; rfl
  have hout : Run.ofOption (scope.path? ["out"]) = pure .sink := h.eval_out
  simp only [printing, Expr.eval, Expr.evalAll, hout, h.eval_depthAt below, hnode, pure_bind,
    bind_assoc, Run.ofDump_bind, hcall, Run.attempt_ofAction]

lemma eval_counting (h : Ready program node depth scope) {marker name : String} {value : Value}
    {size : Nat} {label : String} (hvalue : scope.bindings.lookup name = some value)
    (hsize : value.method? "len" [] = some (.number size))
    (hlabel : scope.format? (marker ++ "[\x7b\x7d]") [.number size] = some (.text label))
    (below : Nat) :
    (counting marker name below).eval scope =
      Run.ofDump (.heading label (depth + below)) >>= fun _ => pure .unit := by
  have htext : (Expr.reference (.format (marker ++ "[\x7b\x7d]")
      [.method (.path [name]) "len" []])).eval scope = pure (.text label) := by
    have hpath : scope.path? [name] = some value := hvalue
    have hof : ∀ value : Value, Run.ofOption (some value) = pure value := fun _ => rfl
    simp only [Expr.eval, Expr.evalAll, hpath, hof, pure_bind, hsize, hlabel]
  exact h.eval_heading htext below

end Ready

lemma fill?_plain (shown : String → Option String) (plain rest : List Char)
    (arguments : List String) (hopen : '{' ∉ plain) (hclose : '}' ∉ plain) :
    fill? shown none (plain ++ rest) arguments =
      (fill? shown none rest arguments).map (plain ++ ·) := by
  induction plain with
  | nil => exact Option.map_id'.symm
  | cons c plain ih =>
    rw [List.mem_cons, not_or] at hopen hclose
    rw [List.cons_append, fill?, if_neg (Ne.symm hopen.1), if_neg (Ne.symm hclose.1),
      ih hopen.2 hclose.2, Option.map_map]
    rfl

lemma format?_count (scope : Scope) {marker : String} (size : Nat)
    (hopen : '{' ∉ marker.toList) (hclose : '}' ∉ marker.toList) :
    scope.format? (marker ++ "[\x7b\x7d]") [.number size] =
      some (.text (marker ++ "[" ++ Decimal.ofNat size ++ "]")) := by
  have hcount : fill? scope.shown? none "[\x7b\x7d]".toList [Decimal.ofNat size] =
      some ("[".toList ++ ((Decimal.ofNat size).toList ++ "]".toList)) := rfl
  have hfill := fill?_plain scope.shown? marker.toList "[\x7b\x7d]".toList [Decimal.ofNat size]
    hopen hclose
  rw [hcount, Option.map_some, ← String.toList_append] at hfill
  change Option.map _ (fill? scope.shown? none _ [Decimal.ofNat size]) = _
  rw [hfill]
  simp [String.append_assoc]

lemma format?_list (scope : Scope) (size : Nat) :
    scope.format? ("List" ++ "[\x7b\x7d]") [.number size] = some (.text (listLabel size)) :=
  format?_count scope size (by decide) (by decide)

lemma format?_dict (scope : Scope) (size : Nat) :
    scope.format? ("Dict" ++ "[\x7b\x7d]") [.number size] = some (.text (dictLabel size)) :=
  format?_count scope size (by decide) (by decide)

lemma format?_key (scope : Scope) (key : String)
    (hkey : scope.bindings.lookup "key" = some (.text key)) :
    scope.format? "[\x7bkey\x7d]" [] = some (.text (keyLabel key)) := by
  have hshown : scope.shown? (String.ofList ['k', 'e', 'y']) = some key := by
    change (scope.bindings.lookup "key").bind Value.shown? = some key
    rw [hkey]
    rfl
  have hfill : fill? scope.shown? none "[\x7bkey\x7d]".toList [] =
      some ("[".toList ++ (key.toList ++ "]".toList)) := by
    change Option.map _ (Option.bind (scope.shown? (String.ofList ['k', 'e', 'y'])) _) = _
    rw [hshown]
    rfl
  have hlabel : String.ofList ("[".toList ++ (key.toList ++ "]".toList)) = keyLabel key := by
    simp [keyLabel, String.append_assoc]
  exact (congrArg (Option.map fun chars => Value.text (String.ofList chars)) hfill).trans
    (congrArg (fun text => some (Value.text text)) hlabel)

end Source

end TreeDump
