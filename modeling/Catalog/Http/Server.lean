import Catalog.Http.Description
import Catalog.Http.Request
import Catalog.Links.Collection
import Catalog.Movie.Service

/-!
# The server

Routes requests to the movie service and writes its answers. Every answer carries the identifier of
its request; a `HEAD` request gets the answer of `GET` without its body.
-/

namespace Catalog

/-- What a path names. -/
inductive Route where
  /-- The health check. -/
  | health
  /-- The description of the interface. -/
  | description
  /-- The collection of movies. -/
  | movies
  /-- A movie, by an identifier that is still percent-encoded. -/
  | movie (segment : List Char)
deriving DecidableEq, Repr

/-- The route of a path. A movie's segment is not empty and has no slash. -/
def Route.ofPath? (path : List Char) : Option Route :=
  if path = "/health".toList then some health
  else if path = "/openapi.json".toList then some description
  else if path = "/movies".toList then some movies
  else
    match Text.dropLead? "/movies/".toList path with
    | some segment => if segment.isEmpty || segment.contains '/' then none else some (movie segment)
    | none => none

/-- An answer with the identifier of its request. -/
structure Reply where
  /-- The answer. -/
  response : Response
  /-- The identifier. -/
  requestId : String

/-- The server: the movie service and the settings of its links. -/
structure Server where
  /-- The service. -/
  service : MovieService
  /-- What addresses in links start with, without slashes at its end. -/
  publicUrl : String
  /-- Configured links. -/
  links : LinkSettings

namespace Server

/-- The server of a service and its settings. -/
def create (service : MovieService) (settings : MovieSettings) : Server where
  service := service
  publicUrl := String.ofList (settings.publicUrl.toList.reverse.dropWhile (· == '/')).reverse
  links := settings.links

/-- The address of a request as clients see it. -/
def fullUrl (s : Server) (target : RequestTarget) : String :=
  s.publicUrl ++ String.ofList target.pathAndQuery

/-- The path of a target as a problem's place. -/
def place (target : RequestTarget) : String :=
  String.ofList target.pathText

/-- Answer a list request. -/
def listMovies (s : Server) (target : RequestTarget) : Response :=
  match ListParams.ofQuery (target.query?.getD []) with
  | .error e => e.problem.toResponse
  | .ok params =>
    match s.service.list params with
    | .error e => (e.problem (place target)).toResponse
    | .ok page =>
      .json (Links.envelope Movie.id Movie.fields page (s.fullUrl target) s.links.collection
        s.links.resource)

/-- The answer to an identifier that is not UTF-8. -/
def unreadableId : Response where
  status := 400
  contentType := some "text/plain; charset=utf-8"
  body := "Invalid URL: Invalid UTF-8 in `id`"

/-- Answer a request for one movie. -/
def getMovie (s : Server) (target : RequestTarget) (segment : List Char) : Response :=
  match Text.decodeUtf8? (Percent.decode segment) with
  | none => unreadableId
  | some id =>
    match s.service.get (String.ofList id) with
    | .error e => (e.problem (place target)).toResponse
    | .ok movie =>
      .json (Links.linked movie.fields
        (Links.ofResource (s.fullUrl target) s.links.knownCollections s.links.resource))

/-- Answer a request that reads. -/
def read (s : Server) (target : RequestTarget) : Route → Response
  | .health => .json (.object [("status", .string "ok")])
  | .description => .json Description.document
  | .movies => s.listMovies target
  | .movie segment => s.getMovie target segment

/-- Drop the body of an answer. -/
def withoutBody (method : String) (response : Response) : Response :=
  if method = "HEAD" then { response with body := "" } else response

/-- Answer a request. Only `GET` and `HEAD` are known. -/
def respond (s : Server) (request : Request) : Response :=
  match Route.ofPath? request.target.pathText with
  | none => .empty 404
  | some route =>
    if request.method = "GET" ∨ request.method = "HEAD" then
      withoutBody request.method (s.read request.target route)
    else { status := 405, allow := some "GET,HEAD" }

/-- Answer a request with its identifier; `fresh` is used when the client gave none. -/
def reply (s : Server) (fresh : String) (request : Request) : Reply :=
  ⟨s.respond request, request.requestId.getD fresh⟩

end Server

end Catalog
