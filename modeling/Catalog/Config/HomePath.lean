import Catalog.Config.Environment
import Catalog.Files.Access

/-!
# The home directory of the server

A configured path may start with a tilde, which stands for the user's home directory; a relative
path starts from the current directory. Main statement: `isAbsolute_resolve`.
-/

namespace Catalog

/-- Why there is no home directory. -/
inductive HomeError where
  /-- The user's home directory is not known. -/
  | unknownHome
  /-- The directory cannot be made. -/
  | cannotCreate (path : String) (cause : FileError)

/-- The wording of each cause. -/
def HomeError.message : HomeError → String
  | unknownHome => "environment variable HOME is not set"
  | cannotCreate path _ => "cannot create home dir " ++ path

namespace HomePath

/-- The variable that names the user's home directory. -/
def userHome? (env : Environment) : Option String := env.get? "HOME"

/-- A configured path with its tilde expanded; without one, a subdirectory of the user's home. -/
def expand (configured : Option String) (subdirectory : String) (home : Option String) :
    Except HomeError String :=
  let below (rest : String) : Except HomeError String :=
    match home with
    | some home => .ok (Path.join home rest)
    | none => .error .unknownHome
  match configured with
  | none => below subdirectory
  | some text =>
    match text.toList with
    | '~' :: '/' :: rest => below (String.ofList rest)
    | '~' :: '\\' :: rest => below (String.ofList rest)
    | ['~'] =>
      match home with
      | some home => .ok home
      | none => .error .unknownHome
    | _ => .ok text

/-- A path as seen from the current directory. -/
def absolute (currentDirectory path : String) : String :=
  if Path.isAbsolute path then path else Path.join currentDirectory path

/-- The home directory of the server. -/
def resolve (configured : Option String) (subdirectory : String) (home : Option String)
    (currentDirectory : String) : Except HomeError String :=
  (expand configured subdirectory home).map (absolute currentDirectory)

theorem isAbsolute_absolute {currentDirectory : String}
    (h : Path.isAbsolute currentDirectory = true) (path : String) :
    Path.isAbsolute (absolute currentDirectory path) = true := by
  unfold absolute
  split
  · assumption
  · exact Path.isAbsolute_join h path

theorem isAbsolute_resolve {configured : Option String} {subdirectory : String}
    {home : Option String} {currentDirectory path : String}
    (h : Path.isAbsolute currentDirectory = true)
    (hr : resolve configured subdirectory home currentDirectory = .ok path) :
    Path.isAbsolute path = true := by
  unfold resolve at hr
  cases he : expand configured subdirectory home with
  | error e => simp [he, Except.map] at hr
  | ok p =>
    simp only [he, Except.map, Except.ok.injEq] at hr
    exact hr ▸ isAbsolute_absolute h p

variable {m : Type → Type} [Monad m]

/-- Resolve the home directory, and make it if asked to. -/
def prepare (files : FileAccess m) (env : Environment) (configured : Option String)
    (subdirectory : String) (create : Bool) : m (Except HomeError String) := do
  match resolve configured subdirectory (userHome? env) (← files.currentDirectory) with
  | .error e => return .error e
  | .ok path =>
    if create then
      match ← files.createDirectories path with
      | .ok () => return .ok path
      | .error e => return .error (.cannotCreate path e)
    else return .ok path

end HomePath

end Catalog
