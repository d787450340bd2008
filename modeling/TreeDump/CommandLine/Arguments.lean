import TreeDump.Text.ControlSequence

/-!
# Arguments of the command line

The command has one option with a value and three switches. Arguments are read from left to right
and the first mistake is reported. A value may be attached to the option or follow it, and what
follows is settled only when the next option or switch, or the end, is reached: until then a
mistake found in between comes first.
-/

namespace TreeDump.CommandLine

/-- The option and the switches. -/
inductive Choice where
  | output
  | list
  | help
  | version
deriving DecidableEq

namespace Choice

def ofLong? : String → Option Choice
  | "output" => some output
  | "list" => some list
  | "help" => some help
  | "version" => some version
  | _ => none

def ofLetter? : Char → Option Choice
  | 'o' => some output
  | 'h' => some help
  | 'V' => some version
  | _ => none

def usage : Choice → String
  | output => "--output <PATH>"
  | list => "--list"
  | help => "--help"
  | version => "--version"

end Choice

/-- A mistake in the arguments. -/
inductive UsageError where
  | unexpectedArgument (argument : String)
  | unexpectedValue (value : String) (choice : Choice)
  | missingValue (choice : Choice)
  | repeated (choice : Choice)
deriving DecidableEq

namespace UsageError

/-- The wording of a mistake. Of an argument it names what a terminal shows. -/
def message : UsageError → String
  | unexpectedArgument argument =>
    "unexpected argument '" ++ ControlSequence.strip argument ++ "' found"
  | unexpectedValue value choice =>
    "unexpected value '" ++ ControlSequence.strip value ++ "' for '" ++ choice.usage ++
    "' found; no more were expected"
  | missingValue choice =>
    "a value is required for '" ++ choice.usage ++ "' but none was supplied"
  | repeated choice => "the argument '" ++ choice.usage ++ "' cannot be used multiple times"

end UsageError

/-- What the arguments ask for. -/
inductive Request where
  | help
  | version
  /-- Writes the names of the nodes or the printer, to a path or to the standard output. -/
  | generate (list : Bool) (output : Option String)
deriving DecidableEq

/-- An argument by its form. -/
inductive Argument where
  /-- Two dashes, after which there are no options. -/
  | terminator
  /-- A name after two dashes, with what follows the first equals sign. -/
  | long (name : String) (value : Option String)
  /-- A letter after a dash, with what follows it. -/
  | short (letter : Char) (rest : List Char)
  /-- Anything else, also a dash alone. -/
  | plain (text : String)

namespace Argument

/-- What stands before the first equals sign and, if there is one, what stands after it. -/
def splitValue : List Char → List Char × Option (List Char)
  | [] => ([], none)
  | '=' :: value => ([], some value)
  | c :: rest =>
    let (name, value) := splitValue rest
    (c :: name, value)

def ofText (text : String) : Argument :=
  match text.toList with
  | ['-', '-'] => terminator
  | '-' :: '-' :: rest =>
    let (name, value) := splitValue rest
    long (String.ofList name) (value.map String.ofList)
  | '-' :: letter :: rest => short letter rest
  | _ => plain text

end Argument

/-- The value of an option whose argument has been read. -/
inductive Pending where
  | nothing
  | awaited
  | given (value : String)
deriving DecidableEq

/-- What the arguments read so far have chosen. -/
structure Choices where
  list : Bool
  output : Option String
  pending : Pending
deriving DecidableEq

namespace Choices

def initial : Choices := ⟨false, none, .nothing⟩

/-- The choices with a value for the output, unless there is one. -/
def setOutput (choices : Choices) (value : String) : Except UsageError Choices :=
  if choices.output.isSome then .error (.repeated .output)
  else .ok { choices with output := some value }

/-- The choices with the list switch on, unless it is. -/
def setList (choices : Choices) : Except UsageError Choices :=
  if choices.list then .error (.repeated .list) else .ok { choices with list := true }

/-- The choices after the pending value has been taken. -/
def settle (choices : Choices) : Except UsageError Choices :=
  match choices.pending with
  | .nothing => .ok choices
  | .awaited => .error (.missingValue .output)
  | .given value => { choices with pending := .nothing }.setOutput value

def request (choices : Choices) : Except UsageError Request := do
  let choices ← choices.settle
  return .generate choices.list choices.output

/-- The effect of a choice with a value, if one is attached: what has been chosen then, or the
request that it makes on the spot. -/
def choose (choices : Choices) (choice : Choice) (value : Option String) :
    Except UsageError (Choices ⊕ Request) :=
  match choice, value with
  | .output, some value => do return .inl (← (← choices.settle).setOutput value)
  | .output, none => do return .inl { ← choices.settle with pending := .awaited }
  | choice, some value => .error (.unexpectedValue value choice)
  | .list, none => do return .inl (← (← choices.settle).setList)
  | .help, none => do
    let _ ← choices.settle
    return .inr .help
  | .version, none => do
    let _ ← choices.settle
    return .inr .version

/-- The value that is attached to a letter, without the equals sign before it. -/
def attachedValue : List Char → Option String
  | [] => none
  | '=' :: value => some (String.ofList value)
  | value => some (String.ofList value)

/-- The effect of a letter with what follows it. Switches of one letter make their request on the
spot, so what follows them is not looked at. -/
def chooseLetter (choices : Choices) (letter : Char) (rest : List Char) :
    Except UsageError (Choices ⊕ Request) :=
  match Choice.ofLetter? letter with
  | some .output => choices.choose .output (attachedValue rest)
  | some choice => choices.choose choice none
  | none => .error (.unexpectedArgument (String.ofList ['-', letter]))

def read (choices : Choices) (argument : Argument) : Except UsageError (Choices ⊕ Request) :=
  match argument with
  | .terminator => .ok (.inl choices)
  | .long name value =>
    match Choice.ofLong? name with
    | some choice => choices.choose choice value
    | none => .error (.unexpectedArgument ("--" ++ name))
  | .short letter rest => choices.chooseLetter letter rest
  | .plain text =>
    if choices.pending = .awaited then .ok (.inl { choices with pending := .given text })
    else .error (.unexpectedArgument text)

def readAll (choices : Choices) : List String → Except UsageError Request
  | [] => choices.request
  | text :: rest =>
    match Argument.ofText text, rest with
    | .terminator, [] => choices.request
    | .terminator, next :: _ => .error (.unexpectedArgument next)
    | argument, rest =>
      match choices.read argument with
      | .error error => .error error
      | .ok (.inr request) => .ok request
      | .ok (.inl choices) => choices.readAll rest

end Choices

namespace Request

def ofArguments (arguments : List String) : Except UsageError Request :=
  Choices.initial.readAll arguments

end Request

end TreeDump.CommandLine
