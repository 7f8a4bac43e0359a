import Catalog.Proofs.ClientAgreement

/-!
# Errors as problems

A request for movies that fails is answered with a problem that names its path, as long as the
parameters or the identifier can be read. Two answers fall short of that: the problem of parameters
that cannot be read names no place, and an identifier that is not UTF-8 is answered with plain text.

## Key results

- `ServiceError.showsProblem_toResponse`, `ParamsError.showsProblem_toResponse`: causes of errors
- `Server.listMovies_showsProblem_iff`, `Server.getMovie_showsProblem_iff`: answers that fail
- `Server.errors_are_problems`: failing requests for movies
-/

namespace Catalog

/-! ## Causes of errors -/

/-- A response carries a problem that has a code and its type, and occurred at a path. -/
def Response.ShowsProblem (r : Response) (path : String) : Prop :=
  ∃ p : Problem, r.Carries p ∧ p.IsCoded ∧ p.instancePath = path

/-- The problem of a response tells a single place. -/
theorem Response.ShowsProblem.unique {r : Response} {path path' : String} (h : r.ShowsProblem path)
    (h' : r.ShowsProblem path') : path = path' := by
  obtain ⟨p, hcarries, -, rfl⟩ := h
  obtain ⟨p', hcarries', -, rfl⟩ := h'
  rw [Option.some.inj (hcarries.problem.symm.trans hcarries'.problem)]

theorem QueryError.isCoded_problem (e : QueryError) (path : String) :
    (Problem.ofQueryError e path).IsCoded := by
  refine (Problem.isCoded_withCode _ ?_).withInstance path
  cases e <;> simp [QueryError.code]

/-- What the service refuses is told with its place. -/
theorem ServiceError.showsProblem_toResponse (e : ServiceError) (path : String) :
    (e.problem path).toResponse.ShowsProblem path := by
  have hstatus : Problem.isStatus (e.problem path).status = true := by
    rw [e.status_problem]
    exact e.isStatus_status
  refine ⟨_, Problem.carries_toResponse hstatus, ?_, ?_⟩
  · cases e with
    | movieNotFound id => exact (Problem.isCoded_withCode _ (by decide)).withInstance path
    | query cause => exact cause.isCoded_problem path
    | storage message => exact (Problem.isCoded_withCode _ (by decide)).withInstance path
  · cases e <;> rfl

/-- What is wrong with parameters is told without a place. -/
theorem ParamsError.showsProblem_toResponse (e : ParamsError) :
    e.problem.toResponse.ShowsProblem "" := by
  have hstatus : e.problem.status = 400 := by cases e <;> rfl
  refine ⟨_, Problem.carries_toResponse (by rw [hstatus]; decide), ?_, by cases e <;> rfl⟩
  cases e with
  | duplicate name => exact Problem.isCoded_withCode _ (by decide)
  | invalidNumber name reason => exact Problem.isCoded_withCode _ (by decide)
  | filterTooLong => exact (Problem.isCoded_withCode _ (by decide)).withParameter _
  | sortTooLong => exact (Problem.isCoded_withCode _ (by decide)).withParameter _

/-! ## Answers -/

namespace Server

variable {server : Server} {target : RequestTarget} {request : Request}

/-- A failing listing tells its place if its parameters can be read. -/
theorem listMovies_showsProblem_iff (hroute : Route.ofPath? target.pathText = some .movies)
    (hfailed : 400 ≤ (server.listMovies target).status) :
    (server.listMovies target).ShowsProblem (place target) ↔
      ∃ params, ListParams.ofQuery (target.query?.getD []) = .ok params := by
  cases hquery : ListParams.ofQuery (target.query?.getD []) with
  | error fault =>
    rw [listMovies_of_fault hquery]
    refine ⟨fun h => ?_, nofun⟩
    -- a path that has a route is not empty
    have hplace : place target = "" := h.unique fault.showsProblem_toResponse
    have hpath : target.pathText = [] := by
      rw [← String.toList_ofList (l := target.pathText)]
      exact congrArg String.toList hplace
    rw [hpath] at hroute
    cases hroute
  | ok params =>
    refine ⟨fun _ => ⟨params, rfl⟩, fun _ => ?_⟩
    cases hlist : server.service.list params with
    | error e =>
      rw [listMovies_of_error hquery hlist]
      exact e.showsProblem_toResponse (place target)
    | ok page =>
      -- a page is no failure
      simp only [listMovies, hquery, hlist] at hfailed
      exact absurd hfailed (show ¬ 400 ≤ 200 by decide)

/-- A failing request for a movie tells its place if the identifier can be read. -/
theorem getMovie_showsProblem_iff {segment : List Char}
    (hfailed : 400 ≤ (server.getMovie target segment).status) :
    (server.getMovie target segment).ShowsProblem (place target) ↔
      ∃ id, Text.decodeUtf8? (Percent.decode segment) = some id := by
  cases hid : Text.decodeUtf8? (Percent.decode segment) with
  | none =>
    refine ⟨fun ⟨p, hcarries, _⟩ => ?_, nofun⟩
    -- plain text is not of the kind of problems
    have hkind := hcarries.contentType
    simp only [getMovie, hid] at hkind
    exact absurd hkind (by decide)
  | some id =>
    refine ⟨fun _ => ⟨id, rfl⟩, fun _ => ?_⟩
    cases hget : server.service.get (String.ofList id) with
    | error e =>
      rw [getMovie_of_error hid hget]
      exact e.showsProblem_toResponse (place target)
    | ok movie =>
      simp only [getMovie, hid, hget] at hfailed
      exact absurd hfailed (show ¬ 400 ≤ 200 by decide)

/-- A request for movies that fails is answered with a problem that tells its place, exactly if the
parameters or the identifier can be read. Parameters that cannot be read are told by a problem that
lacks only the place, and an identifier that is not UTF-8 is not told by a problem at all. -/
theorem errors_are_problems (server : Server) {request : Request}
    (hfailed : 400 ≤ (server.respond request).status) :
    (request.Reads .movies →
      ((server.respond request).ShowsProblem (place request.target) ↔
        ∃ params, ListParams.ofQuery (request.target.query?.getD []) = .ok params) ∧
      ∀ fault, ListParams.ofQuery (request.target.query?.getD []) = .error fault →
        server.respond request = fault.problem.toResponse ∧
        (server.respond request).ShowsProblem "") ∧
    ∀ segment, request.Reads (.movie segment) →
      ((server.respond request).ShowsProblem (place request.target) ↔
        ∃ id, Text.decodeUtf8? (Percent.decode segment) = some id) ∧
      (Text.decodeUtf8? (Percent.decode segment) = none →
        server.respond request = unreadableId) := by
  refine ⟨fun hreads => ?_, fun segment hreads => ?_⟩
  · rw [server.respond_of_reads hreads] at hfailed ⊢
    refine ⟨listMovies_showsProblem_iff hreads.route hfailed, fun fault hquery => ?_⟩
    rw [read, listMovies_of_fault hquery]
    exact ⟨rfl, fault.showsProblem_toResponse⟩
  · rw [server.respond_of_reads hreads] at hfailed ⊢
    refine ⟨getMovie_showsProblem_iff hfailed, fun hid => ?_⟩
    simp only [read, getMovie, hid]

/-- A request for a page in front of the first one. -/
def zerothPage : Request := .listing (some "page=0".toList) none

/-- A request for a page that is no number. -/
def wordPage : Request := .listing (some "page=two".toList) none

/-- A request for a movie that does not exist. -/
def missingMovie : Request := .movie "z".toList none

/-- A request for a movie whose identifier is a byte that UTF-8 does not have. -/
def unreadableMovie : Request := .movie "%FF".toList none

theorem reads_zerothPage : zerothPage.Reads .movies :=
  Request.reads_listing _ _

theorem reads_wordPage : wordPage.Reads .movies :=
  Request.reads_listing _ _

theorem reads_missingMovie : missingMovie.Reads (.movie "z".toList) :=
  Request.reads_movie (by decide) (by decide) none

theorem reads_unreadableMovie : unreadableMovie.Reads (.movie "%FF".toList) :=
  Request.reads_movie (by decide) (by decide) none

/-- The page is told without a place. -/
theorem respond_wordPage : sample.respond wordPage =
    (ParamsError.invalidNumber "page" .invalidDigit).problem.toResponse := by
  rw [sample.respond_of_reads reads_wordPage, read]
  exact listMovies_of_fault (show ListParams.ofQuery "page=two".toList = _ by decide +kernel)

/-- A page in front of the first one and a movie that does not exist are told with their places, a
page that is no number is told without one. -/
theorem errors_are_problems_sample :
    (sample.respond zerothPage).status = 422 ∧ (sample.respond zerothPage).ShowsProblem "/movies" ∧
    (sample.respond missingMovie).status = 404 ∧
    (sample.respond missingMovie).ShowsProblem "/movies/z" ∧
    (sample.respond wordPage).status = 400 ∧ (sample.respond wordPage).ShowsProblem "" := by
  have hquery : ListParams.ofQuery (zerothPage.target.query?.getD []) =
      .ok { page := some 0 } := by
    decide +kernel
  have hid : Text.decodeUtf8? (Percent.decode "z".toList) = some "z".toList := by decide +kernel
  have hrefused : (sample.respond zerothPage).status = 422 := by
    rw [sample.respond_of_reads reads_zerothPage, read,
      listMovies_of_error hquery (MovieService.list_of_plan_error rfl)]
    rfl
  have hmissing : (sample.respond missingMovie).status = 404 := by
    rw [sample.respond_of_reads reads_missingMovie, read, getMovie_of_error hid rfl]
    rfl
  have hunread : (sample.respond wordPage).status = 400 := by
    rw [respond_wordPage]
    rfl
  refine ⟨hrefused, ?_, hmissing, ?_, hunread, ?_⟩
  · obtain ⟨hlisting, -⟩ := errors_are_problems sample (by rw [hrefused]; decide)
    exact (hlisting reads_zerothPage).1.2 ⟨_, hquery⟩
  · obtain ⟨-, hmovie⟩ := errors_are_problems sample (by rw [hmissing]; decide)
    exact (hmovie _ reads_missingMovie).1.2 ⟨_, hid⟩
  · obtain ⟨hlisting, -⟩ := errors_are_problems sample (by rw [hunread])
    exact ((hlisting reads_wordPage).2 (.invalidNumber "page" .invalidDigit) (by decide +kernel)).2

/-- A listing and a request for a movie that fail without a problem that tells their place. -/
theorem exists_error_without_problem :
    wordPage.Reads .movies ∧ (sample.respond wordPage).status = 400 ∧
    ¬ (sample.respond wordPage).ShowsProblem (place wordPage.target) ∧
    unreadableMovie.Reads (.movie "%FF".toList) ∧ (sample.respond unreadableMovie).status = 400 ∧
    ∀ path, ¬ (sample.respond unreadableMovie).ShowsProblem path := by
  have hid : Text.decodeUtf8? (Percent.decode "%FF".toList) = none := by decide +kernel
  have hplain : sample.respond unreadableMovie = unreadableId := by
    rw [sample.respond_of_reads reads_unreadableMovie, read, getMovie, hid]
  refine ⟨reads_wordPage, by rw [respond_wordPage]; rfl, fun h => ?_,
    reads_unreadableMovie, by rw [hplain, unreadableId], fun path h => ?_⟩
  · rw [respond_wordPage] at h
    exact absurd (h.unique (ParamsError.showsProblem_toResponse _)) (by decide)
  · obtain ⟨p, hcarries, -⟩ := h
    rw [hplain] at hcarries
    exact absurd hcarries.contentType (by decide)

end Server

end Catalog
