import Catalog.Json.Finite
import Catalog.Logging.Section
import Catalog.Movie.Settings
import Catalog.Yaml.Printer

/-!
# Configuration

What the server is configured with, its defaults, its JSON and YAML forms, and what the command
line overrides.
-/

namespace Catalog

/-- Settings of the server. -/
structure ServerSettings where
  /-- The home directory. A blank one stands for the standard place. -/
  homeDir : String := ""
  /-- The address that the server listens at. -/
  host : String := "127.0.0.1"
  /-- The port that the server listens at. -/
  port : UInt16 := 3000
deriving DecidableEq

/-- The configuration of the program. -/
structure Config where
  /-- Settings of the server. -/
  server : ServerSettings := {}
  /-- Settings of logging, if there are any. -/
  logging : Option LogSettings := some .standard
  /-- The directory of files with settings of modules. -/
  modulesDir : Option String := none
  /-- Settings of modules by name. -/
  modules : SortedMap Json := .empty

namespace ServerSettings

/-- The shape of server settings. -/
def shape : Json.RecordShape where
  name := "ServerConfig"
  strict := true
  fields :=
    [("home_dir", Json.Decoder.string.check), ("host", Json.Decoder.string.check),
      ("port", Json.Decoder.uint16.check)]

/-- Read server settings. -/
def decode : Json.Decoder ServerSettings := fun j => do
  let r ← shape.open j
  let homeDir ← r.required "home_dir" .string
  let host ← r.required "host" .string
  let port ← r.required "port" .uint16
  pure { homeDir, host, port }

/-- The JSON form of server settings. -/
def toJson (s : ServerSettings) : Json :=
  .object [("home_dir", .string s.homeDir), ("host", .string s.host), ("port", Json.nat s.port.toNat)]

end ServerSettings

namespace Config

/-- What stands below the configuration file: everything but logging. -/
def base : Config := { logging := none }

/-- The shape of a configuration. -/
def shape : Json.RecordShape where
  name := "AppConfig"
  strict := true
  fields :=
    [("server", ServerSettings.decode.check),
      ("logging", (Json.Decoder.map LogSection.decodeOpen).nullable.check),
      ("modules_dir", Json.Decoder.string.nullable.check),
      ("modules", (Json.Decoder.map fun j => .ok j.finite).check)]

/-- Read a configuration out of merged layers. -/
def decode : Json.Decoder Config := fun j => do
  let r ← shape.open j
  let server ← r.required "server" ServerSettings.decode
  let logging ← r.nullable "logging" (.map LogSection.decodeOpen)
  let modulesDir ← r.optional "modules_dir" (.nullable .string) none
  let modules ← r.optional "modules" (.map fun j => .ok j.finite) .empty
  pure { server, logging, modulesDir, modules }

/-- The JSON form of a configuration. -/
def toJson (c : Config) : Json :=
  .object [("server", c.server.toJson), ("logging", (c.logging.map LogSettings.toJson).getD .null),
    ("modules_dir", Json.stringOrNull c.modulesDir), ("modules", Json.ofMap c.modules id)]

/-- The YAML form of a configuration. -/
def toYaml (c : Config) : String := Yaml.render c.toJson

/-! ## Modules -/

/-- The name of the movie catalog among the modules. -/
def movieModule : String := "movies"

/-- The settings of the movie catalog; without an entry they are the standard ones. -/
def movieSettings (c : Config) : Except Json.DecodeError MovieSettings :=
  match c.modules.get? movieModule with
  | some j => MovieSettings.decode j
  | none => .ok {}

/-- What is said of a module whose settings are invalid. -/
def invalidModule (name : String) : String :=
  "invalid configuration for module '" ++ name ++ "'"

/-! ## The command line -/

/-- The console level that a number of `-v` asks for. -/
def verboseLevel? (verbose : Nat) : Option String :=
  match verbose with
  | 0 => none
  | 1 => some "debug"
  | _ => some "trace"

/-- Log settings with a console level of the default section, if there is such a section. -/
def withConsoleLevel (settings : LogSettings) (level : String) : LogSettings :=
  match settings.get? LogSection.defaultName with
  | some s => settings.insert LogSection.defaultName { s with consoleLevel := level }
  | none => settings

/-- Apply the port and the number of `-v` of the command line. Logging that is not configured
becomes the standard one. -/
def override (c : Config) (port : Option UInt16) (verbose : Nat) : Config :=
  let settings := c.logging.getD .standard
  let settings := match verboseLevel? verbose with
    | some level => withConsoleLevel settings level
    | none => settings
  { c with
    server := { c.server with port := port.getD c.server.port }
    logging := some settings }

end Config

end Catalog
