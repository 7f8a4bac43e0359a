import Catalog.Files.Path

/-!
# Access to files

The operations on files that loading a configuration and writing a log need, over any monad, and
what is built from them: creating a directory together with its ancestors.
-/

namespace Catalog

/-- Why an operation on a file fails. -/
inductive FileError where
  /-- Nothing has the path. -/
  | notFound
  /-- A name on the way is that of a file. -/
  | notDirectory
  /-- Something has the path already. -/
  | alreadyExists
  /-- A directory stands where a file is due. -/
  | isDirectory
  /-- A name has more than 255 bytes. -/
  | nameTooLong
  /-- A path holds the character NUL. -/
  | invalidPath
  /-- Any other cause. -/
  | other (reason : String)
deriving DecidableEq

/-- The wording of each cause. -/
def FileError.message : FileError → String
  | notFound => "No such file or directory (os error 2)"
  | notDirectory => "Not a directory (os error 20)"
  | alreadyExists => "File exists (os error 17)"
  | isDirectory => "Is a directory (os error 21)"
  | nameTooLong => "File name too long (os error 36)"
  | invalidPath => "file name contained an unexpected NUL byte"
  | other reason => reason

/-- What a path leads to. -/
inductive FileKind where
  /-- A regular file. -/
  | file
  /-- A directory. -/
  | directory
deriving DecidableEq

/-- Operations on files. -/
structure FileAccess (m : Type → Type) where
  /-- The directory that relative paths start from. -/
  currentDirectory : m String
  /-- What a path leads to, if to anything. -/
  kind? : String → m (Option FileKind)
  /-- The text of a file. -/
  readText : String → m (Except FileError String)
  /-- The names in a directory. -/
  entryNames : String → m (Except FileError (List String))
  /-- Make a directory in one that exists. -/
  makeDirectory : String → m (Except FileError Unit)
  /-- Add text at the end of a file, which is made if it is absent. -/
  append : String → String → m (Except FileError Unit)

namespace FileAccess

variable {m : Type → Type} [Monad m]

/-- Whether a path leads to a regular file. -/
def isFile (files : FileAccess m) (path : String) : m Bool := do
  return (← files.kind? path) == some .file

/-- Whether a path leads to a directory. -/
def isDirectory (files : FileAccess m) (path : String) : m Bool := do
  return (← files.kind? path) == some .directory

/-- Make directories that lie in each other, from the outermost inwards. Those that exist stay. -/
def makeEach (files : FileAccess m) : List String → m (Except FileError Unit)
  | [] => return .ok ()
  | path :: inner => do
    match ← files.makeDirectory path with
    | .ok () => files.makeEach inner
    | .error e => if ← files.isDirectory path then files.makeEach inner else return .error e

/-- Make a directory, trying ever farther ancestors until one exists; `missing` are those that
have to be made after it. -/
def makeWithAncestors (files : FileAccess m) (missing : List String) :
    List String → m (Except FileError Unit)
  | [] => files.makeEach missing
  | path :: ancestors => do
    match ← files.makeDirectory path with
    | .ok () => files.makeEach missing
    | .error .notFound => files.makeWithAncestors (path :: missing) ancestors
    | .error e => if ← files.isDirectory path then files.makeEach missing else return .error e

/-- Make a directory together with all ancestors that are absent. -/
def createDirectories (files : FileAccess m) (path : String) : m (Except FileError Unit) :=
  if path.isEmpty then return .ok ()
  else files.makeWithAncestors [] (path :: Path.ancestors path)

end FileAccess

end Catalog
