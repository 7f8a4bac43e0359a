import Catalog.Config.Basic
import Catalog.Config.HomePath
import Catalog.Config.ModuleFiles

/-!
# Loading a configuration

The layers of a configuration, from the lowest: defaults, the configuration file, the environment,
and then files with settings of modules. Without a configuration file the defaults alone count.
-/

namespace Catalog

/-- Why a configuration cannot be loaded. -/
inductive ConfigError where
  /-- The configuration file is absent, or no file. -/
  | fileNotFound (path : String)
  /-- The layers cannot be read, or together have not the shape of a configuration. -/
  | invalidLayers
  /-- There is no home directory. -/
  | homeUnresolved (cause : HomeError)
  /-- There is no home directory, and nothing is configured. -/
  | defaultHomeUnresolved (cause : HomeError)
  /-- The module files cannot be taken over. -/
  | invalidModuleFiles (cause : ModuleFileError)

/-- The wording of each cause. -/
def ConfigError.message : ConfigError → String
  | fileNotFound path => "config file not found: " ++ path
  | invalidLayers => "Failed to extract config from figment"
  | homeUnresolved _ => "Failed to resolve server.home_dir"
  | defaultHomeUnresolved _ => "Failed to resolve server.home_dir (defaults)"
  | invalidModuleFiles cause => cause.message

namespace Config

/-- The subdirectory of the user's home that is the standard home directory. -/
def defaultSubdirectory : String := ".catalog"

/-! ## Layers -/

/-- The settings of a configuration file. A file without content has none. -/
def fileLayer? (text : String) : Option Json := do
  let document ← Yaml.Document.parse? text
  let document := match document.root with
    | some (.mapping _ entries) => { document with root := some (.mapping none entries) }
    | _ => document
  match document.root with
  | none => pure (.object [])
  | some (.scalar _ "" .plain) => pure (.object [])
  | some (.mapping ..) =>
    let value ← document.value? .texts
    match value.toJson with
    | .ok j => pure j
    | .error _ => none
  | some _ => none

/-- The configuration of the layers, before its paths are resolved. -/
def ofLayers (fileText : String) (env : Environment) : Except ConfigError Config :=
  match fileLayer? fileText with
  | none => .error .invalidLayers
  | some layer =>
    match decode ((base.toJson.canonical.overlay layer).overlay env.settings) with
    | .ok c => .ok c
    | .error _ => .error .invalidLayers

/-- The home directory as it is configured; a blank text is none. -/
def configuredHome (s : ServerSettings) : Option String :=
  if Text.allBlank s.homeDir then none else some s.homeDir

variable {m : Type → Type} [Monad m]

/-- Resolve and make the home directory. -/
def withHome (files : FileAccess m) (env : Environment) (c : Config) : m (Except HomeError Config) := do
  match ← HomePath.prepare files env (configuredHome c.server) defaultSubdirectory true with
  | .error e => return .error e
  | .ok path => return .ok { c with server := { c.server with homeDir := path } }

/-- Take over the settings in module files, if there is a directory of them. -/
def withModuleFiles (files : FileAccess m) (c : Config) : m (Except ConfigError Config) := do
  match c.modulesDir with
  | none => return .ok c
  | some directory =>
    match ← files.kind? directory with
    | none => return .ok c
    | some _ =>
      match ← ModuleFiles.merge files directory c.modules with
      | .error e => return .error (.invalidModuleFiles e)
      | .ok modules => return .ok { c with modules }

/-- Load the configuration of a file. -/
def loadFile (files : FileAccess m) (env : Environment) (path : String) :
    m (Except ConfigError Config) := do
  if !(← files.isFile path) then return .error (.fileNotFound path)
  match ← files.readText path with
  | .error _ => return .error .invalidLayers
  | .ok text =>
    match ofLayers text env with
    | .error e => return .error e
    | .ok c =>
      match ← c.withHome files env with
      | .error e => return .error (.homeUnresolved e)
      | .ok c => c.withModuleFiles files

/-- Load the configuration of a file, or the standard one without a file. -/
def load (files : FileAccess m) (env : Environment) (path : Option String) :
    m (Except ConfigError Config) := do
  match path with
  | some path => loadFile files env path
  | none =>
    match ← withHome files env {} with
    | .error e => return .error (.defaultHomeUnresolved e)
    | .ok c => return .ok c

end Config

end Catalog
