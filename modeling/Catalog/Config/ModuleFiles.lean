import Catalog.Files.Access
import Catalog.Json.Finite
import Catalog.Yaml.Value

/-!
# Files with settings of modules

A directory may hold a YAML file for each module, named after it. Its content replaces what was
configured for the module; files with other extensions are left alone.
-/

namespace Catalog

/-- Why files with settings of modules cannot be taken over. -/
inductive ModuleFileError where
  /-- The directory cannot be listed, or a file of it cannot be read. -/
  | unreadable (cause : FileError)
  /-- A file is no YAML. -/
  | invalidYaml (path : String)
  /-- A key in a file has no text. -/
  | invalidKey (cause : Yaml.KeyError)

/-- The wording of each cause. -/
def ModuleFileError.message : ModuleFileError → String
  | unreadable cause => cause.message
  | invalidYaml path => "invalid YAML in " ++ path
  | invalidKey cause => cause.message

namespace ModuleFiles

/-- Extensions of YAML files, in any case. -/
def extensions : List String := ["yml", "yaml"]

/-- The module that a file of this name is for. -/
def moduleName? (fileName : String) : Option String :=
  match Path.splitExtension fileName with
  | (stem, some extension) =>
    if String.ofList (Text.lowerAscii extension.toList) ∈ extensions then some stem else none
  | (_, none) => none

/-- The settings that a file holds. -/
def readSettings (path text : String) : Except ModuleFileError Json :=
  match (Yaml.Document.parse? text).bind fun d => d.value? .values with
  | none => .error (.invalidYaml path)
  | some value => (value.toJson.map Json.finite).mapError .invalidKey

variable {m : Type → Type} [Monad m]

/-- Read the module that a name in a directory stands for and its settings, if the name is that of a
file for a module. -/
def readModule (files : FileAccess m) (directory name : String) :
    m (Except ModuleFileError (Option (String × Json))) := do
  let path := Path.join directory name
  match moduleName? name, ← files.isFile path with
  | some module, true =>
    match ← files.readText path with
    | .error e => return .error (.unreadable e)
    | .ok text => return (readSettings path text).map fun settings => some (module, settings)
  | _, _ => return .ok none

/-- Replace the settings of modules by those in files of a directory. Each file is read when those
before it are taken over, and the first one that is refused ends it. -/
def mergeFiles (files : FileAccess m) (directory : String) (modules : SortedMap Json) :
    List String → m (Except ModuleFileError (SortedMap Json))
  | [] => return .ok modules
  | name :: names => do
    match ← readModule files directory name with
    | .error e => return .error e
    | .ok none => mergeFiles files directory modules names
    | .ok (some (module, settings)) =>
      mergeFiles files directory (modules.insert module settings) names

/-- Replace the settings of modules by those in the files of a directory, as it lists them. -/
def merge (files : FileAccess m) (directory : String) (modules : SortedMap Json) :
    m (Except ModuleFileError (SortedMap Json)) := do
  match ← files.entryNames directory with
  | .error e => return .error (.unreadable e)
  | .ok names => mergeFiles files directory modules names

end ModuleFiles

end Catalog
