import TreeDump.CommandLine.Run

/-!
# The program

The command on the real file system, standard streams and environment.
-/

namespace TreeDump.Main

open CommandLine

/-- The refusal that an error of the file system stands for. -/
def faultOf : IO.Error → FileFault
  | .noFileOrDirectory _ _ _ => .notFound
  | .alreadyExists _ _ _ => .alreadyExists
  | .inappropriateType _ 20 _ => .notDirectory
  | .inappropriateType _ 21 _ => .isDirectory
  | .invalidArgument _ 36 _ => .nameTooLong
  | .permissionDenied _ code details => .other details code.toNat
  | .resourceExhausted _ code details => .other details code.toNat
  | .otherError code details => .other details code.toNat
  | error => .other (toString error) 0

/-- A request to the file system with its refusal as a value. -/
def attempt (request : IO Unit) : IO (Except FileFault Unit) := do
  match ← request.toBaseIO with
  | .ok () => return .ok ()
  | .error error => return .error (faultOf error)

instance : FileSystem IO where
  makeDirectory path := attempt (IO.FS.createDir path)
  isDirectory path := do
    match ← attempt (IO.FS.createDir (path ++ "/.")) with
    | .error .alreadyExists => return true
    | _ => return false
  writeFile path content := attempt (IO.FS.writeFile path content)

end TreeDump.Main

/-- Runs the command on the arguments of the program. -/
def main (arguments : List String) : IO UInt32 := do
  let filter ← IO.getEnv "RUST_LOG"
  let outcome ← TreeDump.CommandLine.run arguments filter
  IO.print outcome.stdout
  (← IO.getStdout).flush
  IO.eprint outcome.stderr
  return outcome.status.toUInt32
