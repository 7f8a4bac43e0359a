import Catalog.Files.Access
import Catalog.SortedMap

/-!
# File trees

A tree of directories and files held as a value, with the operations of `FileAccess` on it. A path
is followed name by name: every name but the last must be that of a directory, and `..` leaves the
directory reached.
-/

namespace Catalog

/-- What a place in a tree holds. -/
inductive FileNode where
  /-- A directory. -/
  | directory
  /-- A file with its text. -/
  | file (text : String)

/-- Directories and files by their place. The root directory is always there. -/
structure FileTree where
  /-- The directory that relative paths start from. -/
  currentDirectory : String
  /-- What is below the root, by absolute path without `.`, `..` and empty names. -/
  nodes : SortedMap FileNode := .empty

namespace FileTree

/-- A place: the names that lead to it from the root, the last one first. -/
abbrev Place := List String

/-- The path of a place. -/
def Place.path (place : Place) : String :=
  "/" ++ String.intercalate "/" place.reverse

/-- What a place holds. -/
def get? (t : FileTree) : Place → Option FileNode
  | [] => some .directory
  | place => t.nodes.get? (Place.path place)

/-- Put something at a place. -/
def set (t : FileTree) (place : Place) (node : FileNode) : FileTree :=
  { t with nodes := t.nodes.insert (Place.path place) node }

/-- The longest name that a file may have, in bytes. -/
def maxNameBytes : Nat := 255

/-- Follow one piece of a path. -/
def enter (t : FileTree) (place : Place) (piece : String) : Except FileError Place :=
  match t.get? place with
  | none => .error .notFound
  | some (.file _) => .error .notDirectory
  | some .directory =>
    if piece = "" ∨ piece = "." then .ok place
    else if piece = ".." then .ok place.tail
    else if maxNameBytes < piece.utf8ByteSize then .error .nameTooLong
    else .ok (piece :: place)

/-- Follow a path to the place that it names, which may be empty. -/
def follow (t : FileTree) (path : String) : Except FileError Place :=
  if path.isEmpty then .error .notFound
  else if path.toList.contains '\x00' then .error .invalidPath
  else
    let start : Place :=
      if Path.isAbsolute path then [] else (Path.names t.currentDirectory.toList).reverse.map String.ofList
    (Path.pieces path).foldlM t.enter start

/-- Follow a path to what it names. -/
def find (t : FileTree) (path : String) : Except FileError (Place × FileNode) := do
  let place ← t.follow path
  match t.get? place with
  | some node => .ok (place, node)
  | none => .error .notFound

/-- What a path leads to. -/
def kind? (t : FileTree) (path : String) : Option FileKind :=
  match t.find path with
  | .ok (_, .directory) => some .directory
  | .ok (_, .file _) => some .file
  | .error _ => none

/-- The text of a file. -/
def readText (t : FileTree) (path : String) : Except FileError String :=
  match t.find path with
  | .ok (_, .file text) => .ok text
  | .ok (_, .directory) => .error .isDirectory
  | .error e => .error e

/-- The paths below a place, each from there on, with what they hold. -/
def below (t : FileTree) (place : Place) : List (String × FileNode) :=
  let lead := if place.isEmpty then "/" else Place.path place ++ "/"
  t.nodes.toList.filterMap fun (path, node) =>
    (Text.dropLead? lead.toList path.toList).map fun rest => (String.ofList rest, node)

/-- The names in a directory, in order. -/
def entryNames (t : FileTree) (path : String) : Except FileError (List String) :=
  match t.find path with
  | .ok (place, .directory) =>
    .ok (((t.below place).map (·.1)).filter fun name => !name.toList.contains '/')
  | .ok (_, .file _) => .error .notDirectory
  | .error e => .error e

/-- Make a directory in one that exists. Closing slashes of its path do not count. -/
def makeDirectory (t : FileTree) (path : String) : Except FileError FileTree :=
  let bare := (path.toList.reverse.dropWhile (· == '/')).reverse
  match t.follow (if bare.isEmpty then path else String.ofList bare) with
  | .error e => .error e
  | .ok place =>
    match t.get? place with
    | some _ => .error .alreadyExists
    | none => .ok (t.set place .directory)

/-- Add text at the end of a file, which is made if it is absent. -/
def append (t : FileTree) (path text : String) : Except FileError FileTree :=
  match t.follow path with
  | .error e => .error e
  | .ok place =>
    match t.get? place with
    | some .directory => .error .isDirectory
    | some (.file old) => .ok (t.set place (.file (old ++ text)))
    | none => .ok (t.set place (.file text))

/-- Run an operation that may change the tree. -/
def change (f : FileTree → Except FileError FileTree) : StateM FileTree (Except FileError Unit) :=
  fun t => match f t with
    | .ok t => (.ok (), t)
    | .error e => (.error e, t)

/-- The operations on a tree that is carried along. -/
def access : FileAccess (StateM FileTree) where
  currentDirectory := return (← get).currentDirectory
  kind? path := return (← get).kind? path
  readText path := return (← get).readText path
  entryNames path := return (← get).entryNames path
  makeDirectory path := change fun t => t.makeDirectory path
  append path text := change fun t => t.append path text

/-- A tree with a current directory, and files below it with their directories. Files that cannot
be placed are left out. -/
def ofFiles (currentDirectory : String) (files : List (String × String)) : FileTree :=
  let fill : StateM FileTree Unit := do
    let _ ← access.createDirectories currentDirectory
    for (name, text) in files do
      let path := Path.join currentDirectory name
      let _ ← access.createDirectories ((Path.parent? path).getD "")
      let _ ← access.append path text
  (fill.run { currentDirectory }).2

/-- What is below the current directory: paths from there on, with a slash behind a directory. -/
def listing (t : FileTree) : List String :=
  match t.find t.currentDirectory with
  | .ok (place, .directory) =>
    (t.below place).map fun (path, node) =>
      match node with
      | .directory => path ++ "/"
      | .file _ => path
  | _ => []

end FileTree

end Catalog
