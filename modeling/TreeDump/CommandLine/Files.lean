import TreeDump.Number.Decimal

/-!
# Files

What the command needs of a file system, and the writing of a file together with the directories
above it.
-/

namespace TreeDump.CommandLine

/-- Why the file system refuses a request. -/
inductive FileFault where
  | notFound
  | alreadyExists
  | notDirectory
  | isDirectory
  | nameTooLong
  | other (text : String) (code : Nat)
deriving DecidableEq

namespace FileFault

def message : FileFault → String
  | notFound => "No such file or directory (os error 2)"
  | alreadyExists => "File exists (os error 17)"
  | notDirectory => "Not a directory (os error 20)"
  | isDirectory => "Is a directory (os error 21)"
  | nameTooLong => "File name too long (os error 36)"
  | other text code => text ++ " (os error " ++ Decimal.ofNat code ++ ")"

end FileFault

/-- What the command needs of a file system. -/
class FileSystem (m : Type → Type) where
  /-- Makes a directory in one that is there. -/
  makeDirectory : String → m (Except FileFault Unit)
  /-- Whether a path leads to a directory. -/
  isDirectory : String → m Bool
  /-- Gives a file its content, and makes the file if it is not there. -/
  writeFile : String → String → m (Except FileFault Unit)

namespace Path

/-- The steps that parts of a path make, given the parts before them that make no step yet, the last
first. An empty part makes no step, and a dot only at the beginning. -/
def stepsOf : List String → List String → List String
  | _, [] => []
  | before, part :: rest =>
    if part = "" ∨ (part = "." ∧ before ≠ []) then stepsOf (part :: before) rest
    else "/".intercalate (part :: before).reverse :: stepsOf [""] rest

/-- The steps of a path, the last first. A step is the text that leads one directory further, with
the slashes before it. -/
def steps (path : String) : List String := (stepsOf [] (path.splitOn "/")).reverse

def ofSteps (steps : List String) : String := String.join steps.reverse

/-- The steps to the directory that a path's last name is in. -/
def above (path : String) : List String := (steps path).tail

end Path

section Operations

variable {m : Type → Type} [Monad m] [FileSystem m]

/-- Makes the directory that steps lead to, and those above it as far as they are missing. The place
that the steps start from is there. -/
def makeDirectories : List String → m (Except FileFault Unit)
  | [] => return .ok ()
  | step :: above => do
    let path := Path.ofSteps (step :: above)
    match ← FileSystem.makeDirectory path with
    | .ok () => return .ok ()
    | .error .notFound =>
      match ← makeDirectories above with
      | .error fault => return .error fault
      | .ok () => settled path (← FileSystem.makeDirectory path)
    | refused => settled path refused
where
  /-- A refusal does not count if the directory is there. -/
  settled (path : String) (made : Except FileFault Unit) : m (Except FileFault Unit) := do
    match made with
    | .ok () => return .ok ()
    | .error fault => return if ← FileSystem.isDirectory path then .ok () else .error fault

end Operations

end TreeDump.CommandLine
