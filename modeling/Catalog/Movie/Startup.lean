import Catalog.Files.Access
import Catalog.Logging.Event
import Catalog.Movie.Service

/-!
# Starting the movie catalog

The movies to start with are read from a file, as seen from the home directory of the server; then
the service is made. What happens is told in log events.
-/

namespace Catalog

/-- Why the movie catalog cannot start. -/
inductive StartupError where
  /-- The file of movies cannot be read. -/
  | unreadableFixtures (path : String)
  /-- The file of movies holds something else. -/
  | invalidFixtures (path : String)
  /-- The default sort names a field that movies do not have. -/
  | invalidDefaultSort (expression : String) (cause : QueryError)

/-- The wording of each cause. -/
def StartupError.message : StartupError → String
  | unreadableFixtures path => "cannot read fixtures " ++ path
  | invalidFixtures path => "invalid movie fixtures in " ++ path
  | invalidDefaultSort expression cause =>
    "invalid default_sort '" ++ expression ++ "': " ++ cause.message

/-- What came of starting something: events, and a result or a cause. -/
structure Started (α : Type) where
  /-- What happened, in order. -/
  events : List LogEvent
  /-- What came of it. -/
  result : Except StartupError α

namespace Startup

/-- The target of events of the movie catalog. -/
def target : String := "movies::module"

/-- The target of events of its storage. -/
def storageTarget : String := "movies::infra::storage::memory_repo"

/-- The events before anything is read. -/
def announcement (s : MovieSettings) : List LogEvent :=
  let text := "Loaded movies config: default_page_size=" ++ toString s.defaultPageSize.toNat ++
    ", max_page_size=" ++ toString s.maxPageSize.toNat ++ ", default_sort=" ++ s.defaultSort
  [⟨.info, target, "Initializing movies module", []⟩, ⟨.debug, target, text, []⟩]

/-- What is said when there is no file of movies. -/
def emptyEvent : LogEvent :=
  ⟨.warn, target, "No fixtures_path configured, starting with an empty catalog", []⟩

/-- What is said when a file of movies has been read. -/
def loadedEvent (path : String) (count : Nat) : LogEvent :=
  ⟨.info, storageTarget, "Loaded movie fixtures", [("count", Json.nat count), ("path", .string path)]⟩

variable {m : Type → Type} [Monad m]

/-- Read the movies to start with. -/
def readStore (files : FileAccess m) (s : MovieSettings) (home : String) : m (Started Store) := do
  let before := announcement s
  match s.fixtures? with
  | none => return ⟨before ++ [emptyEvent], .ok []⟩
  | some name =>
    let path := Path.join home name
    match ← files.readText path with
    | .error _ => return ⟨before, .error (.unreadableFixtures path)⟩
    | .ok text =>
      match Store.readFixtures? text with
      | none => return ⟨before, .error (.invalidFixtures path)⟩
      | some movies =>
        let store := Store.ofMovies movies
        return ⟨before ++ [loadedEvent path store.length], .ok store⟩

/-- The service of a store. -/
def serve (s : MovieSettings) (store : Store) : Except StartupError MovieService :=
  (MovieService.create (.ofStore store) s).mapError (.invalidDefaultSort s.defaultSort)

/-- Start the movie catalog. -/
def start (files : FileAccess m) (s : MovieSettings) (home : String) : m (Started MovieService) := do
  let read ← readStore files s home
  return ⟨read.events, read.result.bind (serve s)⟩

end Startup

end Catalog
