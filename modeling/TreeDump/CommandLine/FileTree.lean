import TreeDump.CommandLine.Files
import TreeDump.Table

/-!
# File trees

A file tree in memory: what is in the root directory, and the working directory that relative paths
start from. It answers requests as a file system does: every part of a path but the last must lead
to a directory, and neither a name nor a path may be too long.
-/

namespace TreeDump.CommandLine

/-- What a name in a directory stands for. -/
inductive FileEntry where
  | file (content : String)
  | directory (entries : Table FileEntry)

/-- What is in a directory. -/
abbrev Directory := Table FileEntry

/-- A directory within a tree: what is in it, and the directories above it, the nearest first, each
with the name that leads from it towards the place. -/
structure Location where
  here : Directory
  above : List (String × Directory)

namespace Location

def enter (location : Location) (name : String) : Except FileFault Location :=
  match location.here.get? name with
  | some (.directory entries) => .ok ⟨entries, (name, location.here) :: location.above⟩
  | some (.file _) => .error .notDirectory
  | none => .error .notFound

/-- The directory above a location. The root is above itself. -/
def leave (location : Location) : Location :=
  match location.above with
  | [] => location
  | (_, directory) :: above => ⟨directory, above⟩

def root (location : Location) : Directory :=
  location.above.foldl (fun below (name, directory) => directory.insert name (.directory below))
    location.here

/-- The most bytes that a name may have. -/
def nameLimit : Nat := 255

def step (location : Location) (part : String) : Except FileFault Location :=
  if part = "" ∨ part = "." then .ok location
  else if part = ".." then .ok location.leave
  else if nameLimit < part.utf8ByteSize then .error .nameTooLong
  else location.enter part

theorem root_enter {location below : Location} {name : String}
    (h : location.enter name = .ok below) : below.root = location.root := by
  unfold enter at h
  split at h
  · next entries hentry =>
    cases h
    have hsame : location.here.insert name (.directory entries) = location.here :=
      congrArg Table.mk (Table.put_of_lookup hentry)
    simp only [root, List.foldl_cons, hsame]
  · cases h
  · cases h

end Location

/-- A tree by its root directory and the names that lead from there to the working directory. -/
structure FileTree where
  root : Directory
  working : List String

namespace FileTree

/-- The most bytes that a path may have. -/
def pathLimit : Nat := 4095

def walk (tree : FileTree) (parts : List String) : Except FileFault Location :=
  let start := if parts.head? = some "" then [] else tree.working
  (start ++ parts).foldlM Location.step ⟨tree.root, []⟩

/-- A path in three: the parts before its last name, the last name, which may be missing, and
whether a slash follows. -/
def splitLast (path : String) : List String × Option String × Bool :=
  let parts := path.splitOn "/"
  let named := parts.reverse.dropWhile (· = "")
  (named.tail.reverse, named.head?, named.length < parts.length)

/-- The tree in which a name at a location stands for an entry. -/
def put (tree : FileTree) (location : Location) (name : String) (entry : FileEntry) : FileTree :=
  { tree with root := { location with here := location.here.insert name entry }.root }

/-- The tree with one more directory, in one that is there. -/
def makeDirectory (tree : FileTree) (path : String) : Except FileFault FileTree :=
  if path = "" then .error .notFound
  else if pathLimit < path.utf8ByteSize then .error .nameTooLong
  else match splitLast path with
    | (_, none, _) => .error .alreadyExists
    | (before, some name, _) => do
      let location ← tree.walk before
      if name = "." ∨ name = ".." then .error .alreadyExists
      else if Location.nameLimit < name.utf8ByteSize then .error .nameTooLong
      else match location.here.get? name with
        | some _ => .error .alreadyExists
        | none => .ok (tree.put location name (.directory .empty))

def isDirectory (tree : FileTree) (path : String) : Bool :=
  path ≠ "" && path.utf8ByteSize ≤ pathLimit && (tree.walk (path.splitOn "/")).isOk

/-- The tree in which a file has a content. A slash after its name asks for a directory. -/
def writeFile (tree : FileTree) (path content : String) : Except FileFault FileTree :=
  if path = "" then .error .notFound
  else if pathLimit < path.utf8ByteSize then .error .nameTooLong
  else match splitLast path with
    | (_, none, _) => .error .isDirectory
    | (before, some name, slashed) => do
      let location ← tree.walk before
      if name = "." ∨ name = ".." ∨ slashed then .error .isDirectory
      else if Location.nameLimit < name.utf8ByteSize then .error .nameTooLong
      else match location.here.get? name with
        | some (.directory _) => .error .isDirectory
        | _ => .ok (tree.put location name (.file content))

/-- The tree after a request, which is the same if the request is refused. -/
def update (change : FileTree → Except FileFault FileTree) (tree : FileTree) :
    Except FileFault Unit × FileTree :=
  match change tree with
  | .ok after => (.ok (), after)
  | .error fault => (.error fault, tree)

instance : FileSystem (StateM FileTree) where
  makeDirectory path := update (·.makeDirectory path)
  isDirectory path := fun tree => (tree.isDirectory path, tree)
  writeFile path content := update (·.writeFile path content)

section Listing

/-! A listing names every entry below a directory by the names that lead to it, the last first. A
file is named with its content. -/

mutual

def listEntry (names : List String) : FileEntry → List (List String × Option String)
  | .file content => [(names, some content)]
  | .directory entries => (names, none) :: listDirectory names entries

def listDirectory (names : List String) : Table FileEntry → List (List String × Option String)
  | ⟨entries⟩ => listEntries names entries

/-- The listing of some of the entries of a directory. -/
def listEntries (names : List String) :
    List (String × FileEntry) → List (List String × Option String)
  | [] => []
  | entry :: rest => listNamed names entry ++ listEntries names rest

def listNamed (names : List String) : String × FileEntry → List (List String × Option String)
  | (name, entry) => listEntry (name :: names) entry

end

/-- All below the working directory, by the names that lead there: a file with its content, and a
directory without one. -/
def listing (tree : FileTree) : List (List String × Option String) :=
  match tree.walk [] with
  | .ok location => (listDirectory [] location.here).map fun (names, file) => (names.reverse, file)
  | .error _ => []

end Listing

end FileTree

end TreeDump.CommandLine
