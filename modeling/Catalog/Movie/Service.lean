import Catalog.Movie.Settings
import Catalog.Movie.Store
import Catalog.Query.Filter
import Catalog.Query.Params

/-!
# The movie service

Compiles list requests against the movie schema before anything reaches the repository: the filter
first, then the sort, then page and page size. Two kinds of callers see two kinds of errors; what a
storage failure said never leaves the service.
-/

namespace Catalog

/-- What the service needs of a storage; each call may fail with a text. -/
structure Repository where
  /-- The movie of an identifier. -/
  findById : String → Except String (Option Movie)
  /-- A page of the movies that match a predicate, sorted. -/
  findPage : Predicate → SortSpec → PageRequest → Except String (Page Movie)

namespace Repository

/-- A store as a repository. -/
def ofStore (s : Store) : Repository where
  findById id := .ok (s.find? id)
  findPage filter sort page :=
    match s.findPage? filter sort page with
    | some found => .ok found
    | none => .error "filter pattern failed to compile"

/-- A repository that fails at every call. -/
def failing (message : String) : Repository where
  findById _ := .error message
  findPage _ _ _ := .error message

end Repository

/-- Why the service refuses a request. -/
inductive ServiceError where
  /-- No movie has the identifier. -/
  | movieNotFound (id : String)
  /-- The query is invalid. -/
  | query (cause : QueryError)
  /-- The storage failed. -/
  | storage (message : String)

namespace ServiceError

/-- The wording of each cause. -/
def message : ServiceError → String
  | movieNotFound id => "Movie not found: " ++ id
  | query cause => cause.message
  | storage text => "Storage error: " ++ text

/-- The problem that a client is told; what the storage said is left out. -/
def problem (e : ServiceError) (path : String) : Problem :=
  match e with
  | movieNotFound id =>
    let p : Problem :=
      { title := "Movie not found", status := 404, detail := "Movie with id " ++ id ++ " was not found" }
    (p.withCode "MOVIES_NOT_FOUND").withInstance path
  | query cause => Problem.ofQueryError cause path
  | storage _ =>
    let p : Problem :=
      { title := "Internal error", status := 500, detail := "An internal storage error occurred" }
    (p.withCode "MOVIES_INTERNAL").withInstance path

end ServiceError

/-- What other parts of a program are told when a request is refused. -/
inductive ClientError where
  /-- No movie has the identifier. -/
  | notFound (id : String)
  /-- The query is invalid, with the code and the text of its fault. -/
  | invalidQuery (code text : String)
  /-- Something else went wrong. -/
  | internal
deriving DecidableEq

namespace ClientError

/-- What is told of an error of the service. -/
def ofServiceError : ServiceError → ClientError
  | .movieNotFound id => notFound id
  | .query cause => invalidQuery cause.code cause.message
  | .storage _ => internal

/-- The wording of each cause. -/
def message : ClientError → String
  | notFound id => "Movie not found: " ++ id
  | invalidQuery _ text => "Invalid query: " ++ text
  | internal => "Internal error"

end ClientError

/-- A list request that is ready for the repository. -/
structure PageCall where
  /-- The compiled filter. -/
  filter : Predicate
  /-- The sort in force. -/
  sort : SortSpec
  /-- The page. -/
  page : PageRequest

/-- The movie service. -/
structure MovieService where
  /-- Its storage. -/
  repository : Repository
  /-- Items on a page when the client does not say. -/
  defaultPageSize : UInt64
  /-- Items on the largest page. -/
  maxPageSize : UInt64
  /-- The sort when the client gives none. -/
  defaultSort : SortSpec

namespace MovieService

/-- The service of some settings. The default sort must name fields of movies. -/
def create (repository : Repository) (settings : MovieSettings) : Except QueryError MovieService := do
  settings.defaultSortSpec.validate Movie.schema
  pure
    { repository
      defaultPageSize := settings.defaultPageSize
      maxPageSize := settings.maxPageSize
      defaultSort := settings.defaultSortSpec }

/-- Compile a list request. -/
def plan (s : MovieService) (params : ListParams) : Except QueryError PageCall := do
  let filter ← Filter.compile Movie.schema params.filter
  let sort := SortSpec.compile params.sort s.defaultSort
  sort.validate Movie.schema
  let page ← PageRequest.resolve params.page params.pageSize s.defaultPageSize s.maxPageSize
  pure ⟨filter, sort, page⟩

/-- Ask the repository for the page of a compiled request. -/
def fetch (s : MovieService) (call : PageCall) : Except String (Page Movie) :=
  s.repository.findPage call.filter call.sort call.page

/-- List movies out of a storage that answers in a monad; it may keep a state, or record what it is
asked. Only a request that compiles gets to it. -/
def listWith {m : Type → Type} [Monad m] (s : MovieService)
    (fetch : PageCall → m (Except String (Page Movie))) (params : ListParams) :
    m (Except ServiceError (Page Movie)) := do
  match s.plan params with
  | .error cause => return .error (.query cause)
  | .ok call =>
    let found ← fetch call
    return found.mapError .storage

/-- List movies. -/
def list (s : MovieService) (params : ListParams) : Except ServiceError (Page Movie) :=
  Id.run (s.listWith (fun call => return s.fetch call) params)

/-- The movie of an identifier. -/
def get (s : MovieService) (id : String) : Except ServiceError Movie := do
  match ← (s.repository.findById id).mapError .storage with
  | some movie => pure movie
  | none => throw (.movieNotFound id)

end MovieService

/-- The service as other parts of the program use it. -/
structure LocalClient where
  /-- The service behind it. -/
  service : MovieService

namespace LocalClient

/-- List movies. -/
def list (c : LocalClient) (params : ListParams) : Except ClientError (Page Movie) :=
  (c.service.list params).mapError .ofServiceError

/-- The movie of an identifier. -/
def get (c : LocalClient) (id : String) : Except ClientError Movie :=
  (c.service.get id).mapError .ofServiceError

end LocalClient

end Catalog
