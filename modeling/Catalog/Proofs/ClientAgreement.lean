import Catalog.Proofs.ListAddress
import Catalog.Proofs.ListRequest
import Catalog.Proofs.ProblemDocuments
import Catalog.Proofs.ServiceOutcome
import Catalog.Proofs.Walk

/-!
# The server and the local client

What a client of the server reads in a response is what the local client is told: pages and movies
when the service finds them, and the same kind of error with the same code when it does not.

## Key results

- `Server.listMovies_showsList`, `Server.getMovie_showsResource`: responses against results
- `Server.agrees_with_client`: every list request and every request for one movie
-/

namespace Catalog

/-! ## Reading problems -/

/-- The code that a client reads in the body of a response. -/
def Response.code? (r : Response) : Option String :=
  ((Json.parse? r.body).bind fun body => body.get? "code").bind Json.string?

/-- The answer to a problem tells its code. -/
theorem Problem.code?_toResponse {p : Problem} (h : p.status < 2 ^ 64) :
    p.toResponse.code? = some p.code := by
  have hbody : p.toResponse.body = p.toJson.render := rfl
  have hcode : p.toJson.get? "code" = some (.string p.code) := rfl
  rw [Response.code?, hbody, Json.parse?_render (fits_toJson h), Option.bind_some,
    Json.get?_finite, hcode]
  rfl

/-! ## Reading movies and pages -/

/-- An answer has the fields of a movie. -/
def Answer.ShowsMovie (answer : Json) (movie : Movie) : Prop :=
  ∀ field ∈ movie.fields, answer.get? field.1 = some field.2.finite

/-- The identifier of an item. -/
def Answer.id? (item : Json) : Option String :=
  (item.get? "id").bind Json.string?

/-- An answer has the movies of a page and its data. -/
structure Answer.ShowsPage (answer : Json) (shown : Page Movie) : Prop where
  ids : (Answer.items answer).map Answer.id? = shown.items.map fun movie => some movie.id
  items : List.Forall₂ Answer.ShowsMovie (Answer.items answer) shown.items
  page : answer.get? "page" = some (Json.nat shown.descriptor.page.toNat)
  pageSize : answer.get? "pageSize" = some (Json.nat shown.descriptor.pageSize.toNat)
  totalCount : answer.get? "totalCount" = some (Json.nat shown.descriptor.totalCount.toNat)

theorem Answer.showsMovie_linked (movie : Movie) (links : LinkSet) :
    Answer.ShowsMovie (Links.linked movie.fields links).finite movie := by
  intro field hfield
  rw [Json.get?_finite]
  simp only [Movie.fields, List.mem_cons, List.not_mem_nil, or_false] at hfield
  rcases hfield with rfl | rfl | rfl | rfl | rfl | rfl | rfl | rfl | rfl | rfl | rfl | rfl <;> rfl

theorem Answer.showsPage_envelope (page : Page Movie) (fullUrl : String)
    (extra templates : Links.Templates) :
    Answer.ShowsPage
      (Links.envelope Movie.id Movie.fields page fullUrl extra templates).finite page := by
  have hitems : Answer.items
      (Links.envelope Movie.id Movie.fields page fullUrl extra templates).finite =
      page.items.map fun movie => (Links.linked movie.fields
        (Links.ofItem (Links.stripQuery fullUrl) movie.id templates)).finite := by
    rw [Answer.items_finite]
    show (page.items.map _).map Json.finite = _
    rw [List.map_map]
    rfl
  refine ⟨?_, ?_, ?_, ?_, ?_⟩
  · rw [hitems, List.map_map]
    refine List.map_congr_left fun movie _ => ?_
    show Answer.id? (Links.linked movie.fields _).finite = _
    rw [Answer.id?, Answer.showsMovie_linked movie _ ("id", .string movie.id) List.mem_cons_self]
    rfl
  · rw [hitems, List.forall₂_map_left_iff]
    exact List.forall₂_same.2 fun movie _ => Answer.showsMovie_linked movie _
  all_goals
    rw [Json.get?_finite]
    rfl

/-! ## Responses against results -/

/-- A response to a list request says what the local client is told. -/
structure Response.ShowsList (response : Response)
    (result : Except ClientError (Page Movie)) : Prop where
  ok_iff : response.status = 200 ↔ ∃ page, result = .ok page
  page : ∀ page, result = .ok page →
    ∃ answer, response.answer? = some answer ∧ Answer.ShowsPage answer page
  refused : ∀ error, result = .error error → error ≠ .internal →
    ∃ code text, error = .invalidQuery code text ∧ response.code? = some code ∧
      response.status =
        if code = "QUERY_INVALID_PAGE" ∨ code = "QUERY_INVALID_PAGE_SIZE" then 422 else 400
  internal_iff : response.status = 500 ↔ result = .error .internal
  internal_code : response.status = 500 → response.code? = some "MOVIES_INTERNAL"

/-- A response to a request for one movie says what the local client is told. -/
structure Response.ShowsResource (response : Response) (result : Except ClientError Movie) :
    Prop where
  outcome : response.status = 200 ∨ response.status = 404 ∨ response.status = 500
  found_iff : response.status = 200 ↔ ∃ movie, result = .ok movie
  movie : ∀ movie, result = .ok movie →
    ∃ answer, response.answer? = some answer ∧ Answer.ShowsMovie answer movie
  notFound_iff : response.status = 404 ↔ ∃ id, result = .error (.notFound id)
  notFound_code : response.status = 404 → response.code? = some "MOVIES_NOT_FOUND"
  internal_iff : response.status = 500 ↔ result = .error .internal
  internal_code : response.status = 500 → response.code? = some "MOVIES_INTERNAL"

section

variable {response : Response} {answer : Json} {error : ServiceError}

theorem Response.ShowsList.of_ok {page : Page Movie} (hstatus : response.status = 200)
    (hanswer : response.answer? = some answer) (hshows : Answer.ShowsPage answer page) :
    response.ShowsList (.ok page) := by
  constructor <;> simp [hstatus, hanswer, hshows]

theorem Response.ShowsResource.of_ok {movie : Movie} (hstatus : response.status = 200)
    (hanswer : response.answer? = some answer) (hshows : Answer.ShowsMovie answer movie) :
    response.ShowsResource (.ok movie) := by
  constructor <;> simp [hstatus, hanswer, hshows]

theorem QueryError.status_eq_code (e : QueryError) : e.status =
    if e.code = "QUERY_INVALID_PAGE" ∨ e.code = "QUERY_INVALID_PAGE_SIZE" then 422 else 400 := by
  cases e <;> rfl

theorem QueryError.status_lt (e : QueryError) : 400 ≤ e.status ∧ e.status < 500 := by
  cases e <;> simp [status]

/-- The answer to an error of the service tells the code of its problem. -/
theorem ServiceError.code?_toResponse (e : ServiceError) (path : String) :
    (e.problem path).toResponse.code? = some (e.problem path).code := by
  refine Problem.code?_toResponse ?_
  rw [e.status_problem]
  cases e with
  | query cause =>
    have := cause.status_lt
    show cause.status < _
    omega
  | movieNotFound id => exact show 404 < 2 ^ 64 by decide
  | storage message => exact show 500 < 2 ^ 64 by decide

/-- Listing never fails for want of a movie. -/
theorem Response.ShowsList.of_error (hlist : ∀ id, error ≠ .movieNotFound id) (path : String) :
    (error.problem path).toResponse.ShowsList (.error (.ofServiceError error)) := by
  have hstatus := error.status_toResponse path
  have hcode := error.code?_toResponse path
  cases error with
  | movieNotFound id => exact absurd rfl (hlist id)
  | query cause =>
    -- the status is one of a fault of the client, neither 200 nor 500
    have hrange := cause.status_lt
    have hcause : (ServiceError.query cause).status = cause.status := rfl
    refine ⟨?_, by simp, ?_, ?_, ?_⟩
    · rw [hstatus, hcause]
      simp only [reduceCtorEq, exists_false, iff_false]
      omega
    · intro e he _
      cases he
      exact ⟨cause.code, cause.message, rfl, hcode, hstatus.trans cause.status_eq_code⟩
    · rw [hstatus, hcause]
      simp only [ClientError.ofServiceError, Except.error.injEq, reduceCtorEq, iff_false]
      omega
    · intro hinternal
      rw [hstatus, hcause] at hinternal
      omega
  | storage message =>
    have hcause : (ServiceError.storage message).status = 500 ∧
        ((ServiceError.storage message).problem path).code = "MOVIES_INTERNAL" := ⟨rfl, rfl⟩
    rw [hcause.1] at hstatus
    rw [hcause.2] at hcode
    constructor <;> simp [hstatus, hcode, ClientError.ofServiceError]

theorem Response.ShowsResource.of_error (hget : ∀ cause, error ≠ .query cause) (path : String) :
    (error.problem path).toResponse.ShowsResource (.error (.ofServiceError error)) := by
  have hstatus := error.status_toResponse path
  have hcode := error.code?_toResponse path
  cases error with
  | query cause => exact absurd rfl (hget cause)
  | movieNotFound id =>
    have hcause : (ServiceError.movieNotFound id).status = 404 ∧
        ((ServiceError.movieNotFound id).problem path).code = "MOVIES_NOT_FOUND" := ⟨rfl, rfl⟩
    rw [hcause.1] at hstatus
    rw [hcause.2] at hcode
    constructor <;> simp [hstatus, hcode, ClientError.ofServiceError]
  | storage message =>
    have hcause : (ServiceError.storage message).status = 500 ∧
        ((ServiceError.storage message).problem path).code = "MOVIES_INTERNAL" := ⟨rfl, rfl⟩
    rw [hcause.1] at hstatus
    rw [hcause.2] at hcode
    constructor <;> simp [hstatus, hcode, ClientError.ofServiceError]

end

/-! ## The server -/

/-- The address of a movie is a path without a query. -/
theorem RequestTarget.parse_movie {segment : List Char}
    (hsegment : ∀ c ∈ segment, isPathChar c = true)
    (hsize : ("/movies/" ++ String.ofList segment).utf8ByteSize ≤ maxLength) :
    parse ("/movies/" ++ String.ofList segment) =
      .ok (.path false ("/movies/".toList ++ segment) none) := by
  have htext : ("/movies/" ++ String.ofList segment).toList =
      '/' :: ("movies/".toList ++ segment) := by
    simp only [String.toList_append, String.toList_ofList]
    rfl
  have hchars : ∀ c ∈ "/movies/".toList ++ segment, isPathChar c = true :=
    List.forall_mem_append.2 ⟨List.all_eq_true.1 (by decide), hsegment⟩
  -- no character ends the path
  have hread : readPath false ("/movies/".toList ++ segment) =
      .ok (.path false ("/movies/".toList ++ segment) none) := by
    rw [readPath, Text.takeWhile_eq_self hchars, Text.dropWhile_eq_nil hchars]
  exact (parse_eq_ok_iff htext).2 ⟨hsize, htext ▸ hread⟩

/-- The segment behind the collection is that of a movie. -/
theorem Route.ofPath?_movie {segment : List Char} (hne : segment ≠ []) (hslash : '/' ∉ segment) :
    ofPath? ("/movies/".toList ++ segment) = some (.movie segment) := by
  have hempty : segment.isEmpty = false := by simpa using hne
  have hcontains : segment.contains '/' = false := by simpa using hslash
  -- none of the fixed paths goes on behind the slash
  have hlead : Text.dropLead? "/movies/".toList ("/movies/".toList ++ segment) = some segment := rfl
  have hhealth : "/movies/".toList ++ segment ≠ "/health".toList := nofun
  have hdescription : "/movies/".toList ++ segment ≠ "/openapi.json".toList := nofun
  have hmovies : "/movies/".toList ++ segment ≠ "/movies".toList := nofun
  simp only [ofPath?, hhealth, hdescription, hmovies, if_false, hlead, hempty, hcontains,
    Bool.or_self, Bool.false_eq_true]

/-- A request that reads what a route names. -/
structure Request.Reads (request : Request) (route : Route) : Prop where
  method : request.method = "GET"
  route : Route.ofPath? request.target.pathText = some route

/-- A request for the listing with the given query. -/
def Request.listing (query : Option (List Char)) (id : Option String) : Request :=
  ⟨"GET", .path false "/movies".toList query, id⟩

/-- A request for the movie of a segment. -/
def Request.movie (segment : List Char) (id : Option String) : Request :=
  ⟨"GET", .path false ("/movies/".toList ++ segment) none, id⟩

theorem Request.reads_listing (query : Option (List Char)) (id : Option String) :
    (listing query id).Reads .movies :=
  ⟨rfl, show Route.ofPath? "/movies".toList = some .movies from rfl⟩

/-- The path of a target that is a path alone, or has a query. -/
theorem RequestTarget.pathText_of_path (text : List Char) (query : Option (List Char)) :
    (path false text query).pathText = text := by
  rw [pathText, Bool.and_false, if_neg Bool.false_ne_true]

theorem Request.reads_movie {segment : List Char} (hne : segment ≠ []) (hslash : '/' ∉ segment)
    (id : Option String) : (movie segment id).Reads (.movie segment) := by
  have hpath : (movie segment id).target.pathText = "/movies/".toList ++ segment :=
    RequestTarget.pathText_of_path _ _
  refine ⟨rfl, ?_⟩
  rw [hpath, Route.ofPath?_movie hne hslash]

namespace Server

variable {server : Server} {target : RequestTarget}

theorem respond_of_reads (server : Server) {request : Request} {route : Route}
    (h : request.Reads route) : server.respond request = server.read request.target route :=
  server.respond_get request h.method h.route

theorem respond_movies (server : Server) (query : Option (List Char)) (id : Option String) :
    server.respond ⟨"GET", .path false "/movies".toList query, id⟩ =
      server.listMovies (.path false "/movies".toList query) :=
  server.respond_of_reads (Request.reads_listing query id)

theorem respond_movie {segment : List Char} (hne : segment ≠ []) (hslash : '/' ∉ segment)
    (server : Server) (id : Option String) :
    server.respond ⟨"GET", .path false ("/movies/".toList ++ segment) none, id⟩ =
      server.getMovie (.path false ("/movies/".toList ++ segment) none) segment :=
  server.respond_of_reads (Request.reads_movie hne hslash id)

/-- Parameters that are refused never reach the service. -/
theorem listMovies_of_fault {fault : ParamsError}
    (h : ListParams.ofQuery (target.query?.getD []) = .error fault) :
    server.listMovies target = fault.problem.toResponse := by
  simp only [listMovies, h]

/-- A listing that the service refuses is answered with the problem of the cause. -/
theorem listMovies_of_error {q : ListParams} {error : ServiceError}
    (h : ListParams.ofQuery (target.query?.getD []) = .ok q)
    (hlist : server.service.list q = .error error) :
    server.listMovies target = (error.problem (place target)).toResponse := by
  simp only [listMovies, h, hlist]

/-- A movie that the service refuses is answered with the problem of the cause. -/
theorem getMovie_of_error {segment id : List Char} {error : ServiceError}
    (h : Text.decodeUtf8? (Percent.decode segment) = some id)
    (hget : server.service.get (String.ofList id) = .error error) :
    server.getMovie target segment = (error.problem (place target)).toResponse := by
  simp only [getMovie, h, hget]

theorem listMovies_showsList {q : ListParams}
    (h : ListParams.ofQuery (target.query?.getD []) = .ok q) :
    (server.listMovies target).ShowsList (LocalClient.list ⟨server.service⟩ q) := by
  simp only [listMovies, h, LocalClient.list]
  cases hresult : server.service.list q with
  | ok page =>
    -- the envelope, its items and their fields leave room in the depth that can be read back
    have hfits := Links.fits_envelope Movie.id (show 0 < 124 by decide)
      (fun m => m.fieldsFit_fields (by decide)) page (server.fullUrl target)
      server.links.collection server.links.resource
    exact .of_ok rfl (Response.answer?_json hfits) (Answer.showsPage_envelope page _ _ _)
  | error e =>
    refine .of_error (fun id he => ?_) (place target)
    -- a listing fails by its query or by the storage
    rcases MovieService.list_error_cases hresult with ⟨cause, rfl, -⟩ | ⟨call, message, rfl, -, -⟩
    · cases he
    · cases he

theorem getMovie_showsResource {id : String} {segment : List Char}
    (h : Text.decodeUtf8? (Percent.decode segment) = some id.toList) :
    (server.getMovie target segment).ShowsResource (LocalClient.get ⟨server.service⟩ id) := by
  simp only [getMovie, h, String.ofList_toList, LocalClient.get, MovieService.get_eq]
  cases server.service.repository.findById id with
  | error message =>
    refine .of_error (fun cause he => ?_) (place target)
    cases he
  | ok found =>
    cases found with
    | none =>
      refine .of_error (fun cause he => ?_) (place target)
      cases he
    | some movie =>
      have hfits := Links.fits_linked (show 0 < 126 by decide) (movie.fieldsFit_fields (by decide))
        (Links.ofResource (server.fullUrl target) server.links.knownCollections
          server.links.resource)
      exact .of_ok rfl (Response.answer?_json hfits) (Answer.showsMovie_linked movie _)

/-- What a client reads in the responses of a server is what the local client of its service is
told, for every repository and all settings, whatever the order and the encoding of the parameters.
Texts that are too long are refused by every server alike, so no repository is asked. -/
theorem agrees_with_client {headers : List (String × String)}
    (hheaders : headers.forM Request.checkHeader = .ok ()) :
    (∀ (server : Server) (q : ListParams) (address : String), q.Fits → q.Address address →
      ∃ request, Request.create "GET" address headers = .ok request ∧
        (server.respond request).ShowsList (LocalClient.list ⟨server.service⟩ q)) ∧
    (∀ (q : ListParams) (address : String), ¬ q.Fits → q.Address address →
      address.utf8ByteSize ≤ RequestTarget.maxLength →
      ∃ (request : Request) (fault : ParamsError),
        Request.create "GET" address headers = .ok request ∧
        ((fault = .filterTooLong ∧ ∃ text ∈ q.filter, 8192 < text.utf8ByteSize) ∨
          (fault = .sortTooLong ∧ ∃ text ∈ q.sort, 1024 < text.utf8ByteSize)) ∧
        fault.problem.toResponse.status = 400 ∧
        ∀ server : Server, server.respond request = fault.problem.toResponse) ∧
    (∀ (server : Server) (id : String) (segment : List Char), id ≠ "" →
      PathSegment.Written id segment →
      ("/movies/" ++ String.ofList segment).utf8ByteSize ≤ RequestTarget.maxLength →
      ∃ request, Request.create "GET" ("/movies/" ++ String.ofList segment) headers =
          .ok request ∧
        (server.respond request).ShowsResource (LocalClient.get ⟨server.service⟩ id)) := by
  refine ⟨?_, ?_, ?_⟩
  · -- parameters within their lengths make an address that can be sent
    intro server q address hfits haddress
    obtain ⟨query, requestId, hcreate, hquery⟩ :=
      haddress.create (haddress.utf8ByteSize_le hfits) hheaders
    refine ⟨_, hcreate, ?_⟩
    rw [respond_movies]
    exact listMovies_showsList (hquery.trans (ListParams.checkLengths_of_fits hfits))
  · -- others are refused before the server is asked
    intro q address hfits haddress hsize
    obtain ⟨query, requestId, hcreate, hquery⟩ := haddress.create hsize hheaders
    obtain ⟨fault, hcheck, hfault⟩ := ListParams.exists_fault_of_not_fits hfits
    refine ⟨_, fault, hcreate, hfault, fault.status_toResponse, fun server => ?_⟩
    rw [respond_movies]
    exact listMovies_of_fault (hquery.trans hcheck)
  · intro server id segment hid hsegment hsize
    have htoken : Request.isToken "GET" = true := by decide
    have hparse := RequestTarget.parse_movie hsegment.isPathChar hsize
    obtain ⟨requestId, hcreate⟩ := Request.exists_create htoken hparse hheaders
    refine ⟨_, hcreate, ?_⟩
    rw [respond_movie (hsegment.ne_nil hid) hsegment.slash_not_mem]
    exact getMovie_showsResource hsegment.decode

/-- Parameters with characters that are written otherwise in a query. -/
def sampleParams : ListParams where
  filter := some "title:A & B"
  page := some 2

/-- A sort that is longer than allowed. -/
def longParams : ListParams where
  sort := some (String.ofList (List.replicate 1025 'a'))

/-- One request of each kind to the server over three movies. -/
theorem agrees_with_client_sample :
    [("x-request-id", "7")].forM Request.checkHeader = .ok () ∧
    sampleParams.Fits ∧ sampleParams.address = "/movies?filter=title:A%20%26%20B&page=2" ∧
    (∃ request, Request.create "GET" sampleParams.address [("x-request-id", "7")] = .ok request ∧
      (sample.respond request).ShowsList (LocalClient.list ⟨sample.service⟩ sampleParams)) ∧
    ¬ longParams.Fits ∧ longParams.address.utf8ByteSize ≤ RequestTarget.maxLength ∧
    (∃ request, Request.create "GET" longParams.address [("x-request-id", "7")] = .ok request ∧
      (sample.respond request).status = 400) ∧
    PathSegment.encode "a/é" = "a%2F%C3%A9".toList ∧
    ∃ request, Request.create "GET" "/movies/a%2F%C3%A9" [("x-request-id", "7")] = .ok request ∧
      (sample.respond request).ShowsResource (LocalClient.get ⟨sample.service⟩ "a/é") := by
  have hheaders : [("x-request-id", "7")].forM Request.checkHeader = .ok () := rfl
  have hfits : sampleParams.Fits := ⟨by decide, by decide⟩
  have hbytes : (String.ofList (List.replicate 1025 'a')).utf8ByteSize = 1025 := by
    rw [Text.utf8ByteSize_ofList_of_ascii fun c hc => ?_, List.length_replicate]
    rw [List.eq_of_mem_replicate hc]
    decide
  have hlong : ¬ longParams.Fits := by
    intro h
    have := h.2 _ rfl
    omega
  have hsize : longParams.address.utf8ByteSize ≤ RequestTarget.maxLength := by
    refine Nat.le_trans longParams.address_spec.utf8ByteSize_le_sum ?_
    have hpresent : longParams.present = [("sort", String.ofList (List.replicate 1025 'a'))] := rfl
    have hname : "sort".utf8ByteSize = 4 := rfl
    simp only [hpresent, List.map_cons, List.map_nil, List.sum_cons, List.sum_nil, hname, hbytes]
    decide
  have hsegment : PathSegment.encode "a/é" = "a%2F%C3%A9".toList := by decide
  obtain ⟨hlist, hrefused, hget⟩ := agrees_with_client hheaders
  refine ⟨hheaders, hfits, rfl, hlist _ _ _ hfits sampleParams.address_spec, hlong,
    hsize, ?_, hsegment, ?_⟩
  · obtain ⟨request, fault, hcreate, -, hstatus, hrespond⟩ :=
      hrefused _ _ hlong longParams.address_spec hsize
    exact ⟨request, hcreate, by rw [hrespond, hstatus]⟩
  · have hwritten := PathSegment.written_encode "a/é"
    rw [hsegment] at hwritten
    exact hget sample "a/é" _ (by decide) hwritten (by decide)

end Server

end Catalog
