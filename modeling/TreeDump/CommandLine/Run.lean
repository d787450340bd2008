import TreeDump.CommandLine.Arguments
import TreeDump.CommandLine.Files
import TreeDump.CommandLine.LogFilter
import TreeDump.Program.OfSchema
import TreeDump.Program.Source
import TreeDump.Schema.CompilerTable

/-!
# The command

The command writes the printer of the compiler's nodes, or their names, to a file or to the standard
output. Nothing is written before the whole text is there, and the standard output carries nothing
else. The exit status is 0, or 1 if the command fails, or 2 if its arguments are mistaken, or 101 if
its log filter cannot be taken apart.
-/

namespace TreeDump.CommandLine

/-- What a run of the command leaves besides files. -/
structure Outcome where
  status : Nat
  stdout : String
  stderr : String
deriving DecidableEq

namespace Outcome

/-- The outcome of a run that did what it was asked for. -/
def success (stdout : String) : Outcome := ⟨0, stdout, ""⟩

/-- The outcome of a run that failed, with what it was about and why it failed. -/
def failure (context cause : String) : Outcome :=
  ⟨1, "", "Error: " ++ context ++ "\n\nCaused by:\n    " ++ cause ++ "\n"⟩

/-- The outcome of a run whose arguments are mistaken. -/
def mistake (error : UsageError) : Outcome :=
  ⟨2, "", "error: " ++ error.message ++ "\n\nFor more information, try '--help'.\n"⟩

/-- The outcome of a run whose log filter cannot be taken apart. -/
def abandoned (complaints : String) : Outcome := ⟨101, "", complaints⟩

/-- The outcome with a text before everything else that is reported. -/
def reportedAfter (outcome : Outcome) (report : String) : Outcome :=
  { outcome with stderr := report ++ outcome.stderr }

end Outcome

def helpText : String :=
  "Generate the compiler's diagnostic tree printer from its node schema\n\n" ++
  "Usage: astdump [OPTIONS]\n\n" ++
  "Options:\n" ++
  "  -o, --output <PATH>  Write the generated source to PATH instead of stdout\n" ++
  "      --list           List node descriptors in emission order instead of generating code\n" ++
  "  -h, --help           Print help\n" ++
  "  -V, --version        Print version\n"

def versionText : String := "astdump-cli 0.1.0\n"

def schemaLoaded (schema : Schema) : LogEvent where
  level := .info
  target := "astdump"
  message := "loaded node schema"
  fields := [("nodes", Decimal.ofNat schema.size)]

/-- The names of a schema's nodes, each with a line feed after it. -/
def listText (schema : Schema) : String :=
  String.ofList (schema.names.flatMap fun name => name.toList ++ ['\n'])

/-- What is generated from a schema: the names of the nodes or the source of the printer. -/
def generatedText (schema : Schema) (list : Bool) : String :=
  if list then listText schema else schema.program.source

section Run

variable {m : Type → Type} [Monad m] [FileSystem m]

/-- Writes a text to a file and makes the directories above it. -/
def writeOutput (path text : String) : m Outcome := do
  let above := Path.above path
  match ← makeDirectories above with
  | .error fault =>
    let directory := Literal.quote (Path.ofSteps above)
    return .failure ("failed to create directory " ++ directory) fault.message
  | .ok () =>
    match ← FileSystem.writeFile path text with
    | .error fault => return .failure ("failed to write output file " ++ path) fault.message
    | .ok () => return .success ""

/-- Generates what is asked for from the schema of the compiler. -/
def generate (list : Bool) (output : Option String) (filter : Option LogFilter) : m Outcome := do
  match Schema.compiler with
  | .error error => return .failure "embedded node schema is inconsistent" error.message
  | .ok schema =>
    let event := schemaLoaded schema
    let report := if filter.any (·.logs event) then event.line else ""
    let text := generatedText schema list
    match output with
    | none => return (Outcome.success text).reportedAfter report
    | some path => return (← writeOutput path text).reportedAfter report

/-- Does what the arguments ask for. -/
def execute (arguments : List String) (filter : Option LogFilter) : m Outcome :=
  match Request.ofArguments arguments with
  | .error error => return .mistake error
  | .ok .help => return .success helpText
  | .ok .version => return .success versionText
  | .ok (.generate list output) => generate list output filter

/-- Runs the command on its arguments and the log filter, if one is set. -/
def run (arguments : List String) (filter : Option String) : m Outcome := do
  match filter.map LogFilter.ofText with
  | none => execute arguments none
  | some (complaints, none) => return .abandoned (String.join complaints)
  | some (complaints, some filter) =>
    return (← execute arguments (some filter)).reportedAfter (String.join complaints)

end Run

end TreeDump.CommandLine
