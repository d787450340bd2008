import TreeDump.Dump.Tree
import TreeDump.Proofs.Source.Reader

/-!
# What printer sources do

A source file is run as it stands: bindings are looked up by name, `?` and `return` end the
function, a loop goes over its rows in order, and a match takes the first branch of a text. Items
that are not defined in the file must be imported: the function that writes a field, the types and
the errors. An expression that makes no sense has no meaning, and then the run has none either.

The nodes below the one at hand are known by what printing them does, so the call of the function
within itself is the action of the child that it is given.
-/

namespace TreeDump.Source

/-- An action on a sink that may have no meaning. -/
abbrev Action := StateT Sink Option

/-- How the function ends. -/
abbrev Result := Except DumpError Unit

/-- What printing a node does at a depth. -/
abbrev Subtree := Nat → Action Result

inductive Value where
  | unit
  | sink
  | text (value : String)
  | number (value : Nat)
  | type (type : FieldType)
  | scalar (value : Scalar)
  | scalars (values : List Scalar)
  | node (layer : Layer Subtree)
  | subtree (subtree : Subtree)
  | subtrees (items : List Subtree)
  | entries (entries : Table Subtree)
  | error (error : DumpError)
  | option (value : Option Value)
  | result (value : Except DumpError Value)

/-- A part of the function: it goes on with a value or ends the function. -/
abbrev Run := ExceptT Result Action

namespace Run

/-- What makes no sense. -/
def stuck {α : Type} : Run α := ExceptT.mk (StateT.lift none)

/-- The value of what makes sense. -/
def ofOption {α : Type} : Option α → Run α
  | some value => pure value
  | none => stuck

/-- An action that always goes on. -/
def ofAction {α : Type} (action : Action α) : Run α := ExceptT.lift action

/-- How the function ends, at its end or before. -/
def finish (run : Run Result) : Action Result := do
  match ← run.run with
  | .ok result => pure result
  | .error result => pure result

end Run

def actionOf (dump : DumpM Unit) : Action Result := fun sink => some (dump.runOn sink)

/-- What can be seen from a place in the function. -/
structure Scope where
  imports : List (List String)
  /-- What the function does when it is called. -/
  call : Option Subtree → Subtree
  bindings : List (String × Value)

namespace Scope

def bind (scope : Scope) (name : String) (value : Value) : Scope :=
  { scope with bindings := (name, value) :: scope.bindings }

def bindAll (scope : Scope) (round : List (String × Value)) : Scope :=
  { scope with bindings := round ++ scope.bindings }

end Scope

namespace Value

def ofResult (outcome : Result) : Value := result (outcome.map fun _ => unit)

def asResult : Value → Option Result
  | result (.ok unit) => some (.ok ())
  | result (.error fault) => some (.error fault)
  | _ => none

def shown? : Value → Option String
  | text value => some value
  | number value => some (Decimal.ofNat value)
  | _ => none

def method? : Value → String → List Value → Option Value
  | text value, "to_string", [] => some (text value)
  | scalar value, "text", [] => some (text value.text)
  | scalar value, "canonical", [] => some (text value.canonical)
  | scalars values, "len", [] => some (number values.length)
  | subtrees items, "len", [] => some (number items.length)
  | entries table, "len", [] => some (number table.size)
  | node layer, "tag", [] => some (text layer.tag)
  | node layer, "identifier", [text field] =>
    some (result ((layer.readIdentifier field).map text))
  | node layer, "scalar", [text field, type expected] =>
    some (result ((layer.readScalar field expected).map scalar))
  | node layer, "scalar_list", [text field, type expected] =>
    some (result ((layer.readScalars field expected).map scalars))
  | node layer, "child", [text field] =>
    some (result ((layer.readChild field).map fun child => option (child.map subtree)))
  | node layer, "child_list", [text field] =>
    some (result ((layer.readChildren field).map subtrees))
  | node layer, "child_map", [text field] =>
    some (result ((layer.readDict field).map entries))
  | _, _, _ => none

/-- The variables of each round of a loop over a value. -/
def rounds? : Value → List String → Option (List (List (String × Value)))
  | scalars values, [name] => some (values.map fun value => [(name, scalar value)])
  | subtrees items, [name] => some (items.map fun item => [(name, subtree item)])
  | entries table, [key, item] =>
    some (table.entries.map fun entry => [(key, text entry.1), (item, subtree entry.2)])
  | _, _ => none

end Value

def typeOfVariant? : String → Option FieldType
  | "Int" => some .int
  | "Long" => some .long
  | "Double" => some .double
  | "UInt" => some .uInt
  | "ULong" => some .uLong
  | "Identifier" => some .identifier
  | "Bool" => some .bool
  | _ => none

/-- The text of a template: empty braces take the arguments in order, and a name in braces takes
what is shown of a variable. The first argument is the name that has been read within braces. -/
def fill? (shown : String → Option String) :
    Option (List Char) → List Char → List String → Option (List Char)
  | none, [], [] => some []
  | none, c :: rest, arguments =>
    if c = '{' then fill? shown (some []) rest arguments
    else if c = '}' then none
    else (fill? shown none rest arguments).map (c :: ·)
  | some name, c :: rest, arguments =>
    if c = '}' then
      match name, arguments with
      | [], argument :: arguments => (fill? shown none rest arguments).map (argument.toList ++ ·)
      | [], [] => none
      | name, arguments =>
        (shown (String.ofList name)).bind fun text =>
          (fill? shown none rest arguments).map (text.toList ++ ·)
    else fill? shown (some (name ++ [c])) rest arguments
  | _, _, _ => none

namespace Scope

def shown? (scope : Scope) (name : String) : Option String :=
  (scope.bindings.lookup name).bind Value.shown?

def format? (scope : Scope) (template : String) (arguments : List Value) : Option Value :=
  (arguments.mapM Value.shown?).bind fun texts =>
    (fill? scope.shown? none template.toList texts).map fun chars => .text (String.ofList chars)

/-- The value of a variable or of an imported item. -/
def path? (scope : Scope) : List String → Option Value
  | [name] => scope.bindings.lookup name
  | ["FieldType", variant] =>
    if ["astdump_core", "types", "FieldType"] ∈ scope.imports then
      (typeOfVariant? variant).map Value.type
    else none
  | _ => none

def callOf (scope : Scope) : List String → List Value → Run Value
  | ["write_field"], [.sink, .text label, .text value, .number depth] =>
    if ["astdump_core", "printer", "write_field"] ∈ scope.imports then
      Value.ofResult <$> Run.ofAction (actionOf (.field label value depth))
    else Run.stuck
  | ["print_node"], [.sink, .option none, .number depth] =>
    Value.ofResult <$> Run.ofAction (scope.call none depth)
  | ["print_node"], [.sink, .option (some (.subtree child)), .number depth] =>
    Value.ofResult <$> Run.ofAction (scope.call (some child) depth)
  | ["Some"], [value] => pure (.option (some value))
  | ["Ok"], [value] => pure (.result (.ok value))
  | ["Err"], [.error error] => pure (.result (.error error))
  | ["DumpError", "DispatchMismatch"], [.text tag] =>
    if ["astdump_core", "error", "DumpError"] ∈ scope.imports then
      pure (.error (.dispatchMismatch tag))
    else Run.stuck
  | _, _ => Run.stuck

end Scope

namespace Value

/-- What `?` makes of a value. -/
def attempt : Value → Run Value
  | .result (.ok value) => pure value
  | .result (.error fault) => throw (.error fault)
  | _ => Run.stuck

/-- What `return` makes of a value. -/
def leave (value : Value) : Run Value := Run.ofOption value.asResult >>= throw

def add? : Value → Value → Option Value
  | .number m, .number n => some (.number (m + n))
  | _, _ => none

end Value

namespace Expr

mutual

def eval (scope : Scope) : Expr → Run Value
  | text value => pure (.text value)
  | number value => pure (.number value)
  | unit => pure .unit
  | path names => Run.ofOption (scope.path? names)
  | reference value => value.eval scope
  | sum left right => do
    let first ← left.eval scope
    let second ← right.eval scope
    Run.ofOption (first.add? second)
  | attempt value => value.eval scope >>= Value.attempt
  | leave value => value.eval scope >>= Value.leave
  | call function arguments => evalAll scope arguments >>= scope.callOf function
  | method receiver name arguments => do
    let value ← receiver.eval scope
    let found ← evalAll scope arguments
    Run.ofOption (value.method? name found)
  | format template arguments => do
    let found ← evalAll scope arguments
    Run.ofOption (scope.format? template found)

def evalAll (scope : Scope) : List Expr → Run (List Value)
  | [] => pure []
  | value :: rest => do
    let first ← value.eval scope
    let others ← evalAll scope rest
    return first :: others

end

end Expr

namespace Command

def execute (scope : Scope) : Command → Run Scope
  | bind name value => do
    let found ← value.eval scope
    return scope.bind name found
  | run value => do
    let _ ← value.eval scope
    return scope
  | each names source body => do
    let found ← source.eval scope
    let rounds ← Run.ofOption (found.rounds? names)
    rounds.forM fun round =>
      body.forM fun value => discard (value.eval (scope.bindAll round))
    return scope

end Command

namespace Function

/-- What a match does with a value: the first branch of a text, or the one for any other text. -/
def choose (function : Function) (scope : Scope) : Value → Run Unit
  | .text text =>
    match function.branches.find? fun branch => branch.pattern = text with
    | some branch => discard (branch.body.foldlM Command.execute scope)
    | none => discard (function.otherwise.eval (scope.bind function.other (.text text)))
  | _ => Run.stuck

/-- What the function does with a node or without one. -/
def enter (function : Function) (scope : Scope) : Value → Run Result
  | .option (some node) => do
    let scope ← function.opening.foldlM Command.execute (scope.bind function.present node)
    let subject ← function.matched.eval scope
    function.choose scope subject
    let value ← function.value.eval scope
    Run.ofOption value.asResult
  | .option none => function.absent.eval scope >>= fun _ => Run.stuck
  | _ => Run.stuck

/-- What the function does with its parameters. -/
def apply (function : Function) (imports : List (List String)) (call : Option Subtree → Subtree)
    (node : Option (Layer Subtree)) : Subtree := fun depth =>
  let parameters : List (String × Value) :=
    [("out", .sink), ("node", .option (node.map .node)), ("depth", .number depth)]
  let scope : Scope := ⟨imports, call, parameters⟩
  Run.finish (function.subject.eval scope >>= function.enter scope)

end Function

namespace File

/-- The items that the function's signature names. -/
def signatureImports : List (List String) := [
  ["std", "io", "Write"],
  ["astdump_core", "node", "Node"],
  ["astdump_core", "error", "DumpResult"]]

/-- What the function does without a node. There it does not call itself. -/
def printAbsent (file : File) : Subtree :=
  file.function.apply file.imports (fun _ _ => StateT.lift none) none

/-- What the function does with a node whose children know what printing them does. -/
def printLayer (file : File) (layer : Layer Subtree) : Subtree :=
  file.function.apply file.imports (fun child => child.getD file.printAbsent) (some layer)

/-- What the function of a file does. -/
def printNode (file : File) (node : Option Node) : Subtree := fun depth =>
  if signatureImports.all (· ∈ file.imports) then
    (node.map (Node.fold file.printLayer)).getD file.printAbsent depth
  else StateT.lift none

end File

end TreeDump.Source
