import Catalog.CommandLine.Arguments
import Catalog.Config.Load
import Catalog.Logging.LogFile
import Catalog.Logging.Targets
import Catalog.Movie.Startup

/-!
# What a run reports

A run loads the configuration, opens the log file and then does what was asked for. Its report says
how it ends and what it writes where; only the files that a run reads and makes are reached through
`FileAccess`.
-/

namespace Catalog.CommandLine

/-- Something that is written to standard output. -/
inductive Output where
  /-- A log event, after its time. -/
  | event (e : LogEvent)
  /-- A line. -/
  | line (text : String)

/-- What a run reports. -/
structure Report where
  /-- The exit code; zero says that all went well. -/
  exitCode : UInt8 := 0
  /-- What goes to standard output. -/
  output : List Output := []
  /-- The lines that go to standard error. -/
  errors : List String := []
  /-- The log file, if one is open. -/
  logFile : Option String := none
  /-- The events that go to the log file. -/
  logged : List LogEvent := []

/-- Why a run fails. -/
inductive RunError where
  /-- There is no configuration. -/
  | config (cause : ConfigError)
  /-- The settings of a module are invalid. -/
  | invalidModule (name : String)
  /-- The movie catalog cannot start. -/
  | movies (cause : StartupError)
  /-- The address to listen at is not to be had. -/
  | cannotBind (address : String)

/-- The wording of each cause. -/
def RunError.message : RunError → String
  | config cause => cause.message
  | invalidModule name => Config.invalidModule name
  | movies _ => "failed to initialize movies module"
  | cannotBind address => "cannot bind " ++ address

/-- What a run has done: what it said, and why it failed if it did. -/
structure Course where
  /-- What it said, in order. -/
  said : List Output
  /-- Why it failed. -/
  failure : Option RunError := none

namespace Course

/-- The target of events of the program. -/
def target : String := "catalog_server"

/-- An event of the program. -/
def notice (message : String) : Output :=
  .event ⟨.info, target, message, []⟩

/-- The lines that show a configuration, with an empty one behind them. -/
def listing (c : Config) : List Output :=
  (Text.splitOn '\n' c.toYaml.toList).map fun line => .line (String.ofList line)

variable {m : Type → Type} [Monad m]

/-- Start the movie catalog of a configuration, after what is said before it. -/
def startMovies (files : FileAccess m) (c : Config) (before : List Output) : m Course := do
  match c.movieSettings with
  | .error _ => return ⟨before, some (.invalidModule Config.movieModule)⟩
  | .ok settings =>
    let started ← Startup.start files settings c.server.homeDir
    let said := before ++ started.events.map .event
    match started.result with
    | .error e => return ⟨said, some (.movies e)⟩
    | .ok _ => return ⟨said, none⟩

/-- Check a configuration. -/
def check (files : FileAccess m) (c : Config) : m Course := do
  let course ← startMovies files c [notice "Checking configuration..."]
  match course.failure with
  | some _ => return course
  | none =>
    let rest := [notice "Configuration is valid", .line "Configuration check passed"] ++ listing c
    return ⟨course.said ++ rest, none⟩

/-- Start the server. It has no access to sockets, so that no address can be bound. -/
def run (files : FileAccess m) (c : Config) : m Course := do
  let course ← startMovies files c [notice "Initializing modules..."]
  match course.failure with
  | some _ => return course
  | none =>
    return ⟨course.said, some (.cannotBind (c.server.host ++ ":" ++ toString c.server.port.toNat))⟩

/-- Do what the arguments ask for. -/
def follow (files : FileAccess m) (a : Arguments) (c : Config) : m Course := do
  let course ←
    if a.printConfig then pure ⟨listing c, none⟩
    else match a.command.getD .run with
      | .run => run files c
      | .check => check files c
  return { course with said := notice "Catalog Server starting" :: course.said }

end Course

namespace Report

/-- The events among what was said that the log file takes. -/
def loggedTo (targets : LogTargets) (said : List Output) : List LogEvent :=
  said.filterMap fun o =>
    match o with
    | .event e => if targets.enables e.target e.level then some e else none
    | .line _ => none

/-- What standard output takes of what was said. -/
def printedTo (targets : LogTargets) (said : List Output) : List Output :=
  said.filter fun o =>
    match o with
    | .event e => targets.enables e.target e.level
    | .line _ => true

/-- A report of a failure. -/
def ofFailure (e : RunError) : Report where
  exitCode := 1
  errors := ["Error: " ++ e.message]

/-- The report of a course with its log settings and log file. -/
def ofCourse (settings : LogSettings) (logFile : Option String) (warnings : List String)
    (course : Course) : Report :=
  let ending : Report := (course.failure.map ofFailure).getD {}
  { ending with
    output := printedTo (.console settings) course.said
    errors := warnings ++ ending.errors
    logFile
    logged := if logFile.isSome then loggedTo (.file settings) course.said else [] }

/-- The report when nothing is started. -/
def ofRefusal : Refusal → Report
  | .help page => { output := page.lines.map .line }
  | .version => { output := [.line (programName ++ " " ++ programVersion)] }
  | .usage cause => { exitCode := 2, errors := ["error: " ++ cause.message] }

/-- The report of a crash. -/
def crash : Report where
  exitCode := 101

/-- What is said of a log file that cannot be opened. -/
def logWarning (path : String) (cause : FileError) : String :=
  "Failed to initialize log file '" ++ path ++ "': " ++ cause.message

variable {m : Type → Type} [Monad m]

/-- Do what the arguments ask for with a configuration. -/
def ofConfig (files : FileAccess m) (a : Arguments) (c : Config) : m Report := do
  let c := c.override a.port a.verbose
  let settings := c.logging.getD .standard
  match ← LogFile.open files settings c.server.homeDir with
  | .crashed _ => return crash
  | .disabled => return ofCourse settings none [] (← Course.follow files a c)
  | .opened path => return ofCourse settings (some path) [] (← Course.follow files a c)
  | .failed path cause =>
    return ofCourse settings none [logWarning path cause] (← Course.follow files a c)

/-- Run the program. -/
def ofArguments (files : FileAccess m) (env : Environment) (arguments : List String) : m Report := do
  match Arguments.read arguments with
  | .error refusal => return ofRefusal refusal
  | .ok a =>
    match ← Config.load files env a.config with
    | .error e => return ofFailure (.config e)
    | .ok c => ofConfig files a c

end Report

end Catalog.CommandLine
