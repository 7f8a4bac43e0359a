import Catalog.Movie.Service

/-!
# Outcomes of the movie service

A list request either fails while it is compiled, or it comes down to one call of the repository;
a request for one movie is one call from the start. The errors of the service follow from where a
request fails, and its problems tell the status.

## Key results

- `MovieService.create_eq_ok_iff`: the settings that make a service
- `MovieService.plan_eq`, `MovieService.plan_eq_ok_iff`: what compiling a list request checks
- `MovieService.list_of_plan_error`, `MovieService.list_of_plan_ok`: what a list request comes
  down to
- `ServiceError.status_problem`: the status of each kind of error
-/

namespace Catalog

namespace MovieService

/-- Of the settings, only the default sort is checked. -/
theorem create_eq_ok_iff {repository : Repository} {settings : MovieSettings}
    {service : MovieService} :
    create repository settings = .ok service ↔
      settings.defaultSortSpec.validate Movie.schema = .ok () ∧
      service = ⟨repository, settings.defaultPageSize, settings.maxPageSize,
        settings.defaultSortSpec⟩ := by
  rw [create]
  cases settings.defaultSortSpec.validate Movie.schema with
  | error e => exact ⟨nofun, nofun⟩
  | ok u => exact ⟨fun h => ⟨rfl, (Except.ok.inj h).symm⟩, fun h => congrArg Except.ok h.2.symm⟩

variable (service : MovieService) (params : ListParams)

/-- The parts of a list request are checked one after the other. -/
theorem plan_eq :
    service.plan params =
      match Filter.compile Movie.schema params.filter,
        (SortSpec.compile params.sort service.defaultSort).validate Movie.schema,
        PageRequest.resolve params.page params.pageSize service.defaultPageSize
          service.maxPageSize with
      | .error e, _, _ => .error e
      | .ok _, .error e, _ => .error e
      | .ok _, .ok _, .error e => .error e
      | .ok filter, .ok _, .ok page =>
        .ok ⟨filter, SortSpec.compile params.sort service.defaultSort, page⟩ := by
  simp only [plan]
  cases Filter.compile Movie.schema params.filter with
  | error e => rfl
  | ok filter =>
    cases (SortSpec.compile params.sort service.defaultSort).validate Movie.schema with
    | error e => rfl
    | ok u =>
      cases PageRequest.resolve params.page params.pageSize service.defaultPageSize
        service.maxPageSize <;> rfl

/-- A list request compiles when its filter, its sort and its page are accepted. -/
theorem plan_eq_ok_iff (call : PageCall) :
    service.plan params = .ok call ↔
      Filter.compile Movie.schema params.filter = .ok call.filter ∧
      SortSpec.compile params.sort service.defaultSort = call.sort ∧
      call.sort.validate Movie.schema = .ok () ∧
      PageRequest.resolve params.page params.pageSize service.defaultPageSize
        service.maxPageSize = .ok call.page := by
  rw [plan_eq]
  constructor
  · intro h
    split at h
    · cases h
    · cases h
    · cases h
    · next filter u page hfilter hvalid hpage =>
      cases h
      exact ⟨hfilter, rfl, hvalid, hpage⟩
  · rintro ⟨hfilter, hsort, hvalid, hpage⟩
    simp only [hfilter, hsort, hvalid, hpage]

/-- A request that does not compile fails with the fault of its query. -/
theorem list_of_plan_error {service : MovieService} {params : ListParams} {cause : QueryError}
    (h : service.plan params = .error cause) :
    service.list params = .error (.query cause) := by
  rw [list, listWith, h]
  rfl

/-- A request that compiles is one call of the repository. -/
theorem list_of_plan_ok {service : MovieService} {params : ListParams} {call : PageCall}
    (h : service.plan params = .ok call) :
    service.list params =
      (service.repository.findPage call.filter call.sort call.page).mapError .storage := by
  rw [list, listWith, h]
  rfl

/-- Listing fails with the fault of the query or of the storage. -/
theorem list_error_cases {service : MovieService} {params : ListParams} {e : ServiceError}
    (h : service.list params = .error e) :
    (∃ cause, e = .query cause ∧ service.plan params = .error cause) ∨
    ∃ call message, e = .storage message ∧ service.plan params = .ok call ∧
      service.repository.findPage call.filter call.sort call.page = .error message := by
  cases hplan : service.plan params with
  | error cause =>
    rw [list_of_plan_error hplan] at h
    cases h
    exact .inl ⟨cause, rfl, rfl⟩
  | ok call =>
    rw [list_of_plan_ok hplan] at h
    cases hfound : service.repository.findPage call.filter call.sort call.page with
    | error message =>
      rw [hfound] at h
      cases h
      exact .inr ⟨call, message, rfl, rfl, hfound⟩
    | ok page => rw [hfound] at h; cases h

/-- A request for one movie is one call of the repository, which may find none. -/
theorem get_eq (id : String) :
    service.get id = match service.repository.findById id with
      | .error message => .error (.storage message)
      | .ok none => .error (.movieNotFound id)
      | .ok (some movie) => .ok movie := by
  unfold get
  cases service.repository.findById id with
  | error message => rfl
  | ok found => cases found <;> rfl

end MovieService

/-! ## Problems -/

/-- Faults of the page parameters have status 422, the other faults of a query 400. -/
def QueryError.status : QueryError → Nat
  | .invalidPage | .invalidPageSize => 422
  | .invalidField _ | .unsupportedType _ _ | .invalidValue _ _ _ => 400

theorem Problem.status_ofQueryError (e : QueryError) (path : String) :
    (Problem.ofQueryError e path).status = e.status := by
  cases e <;> rfl

/-- The status of an error of the service. -/
def ServiceError.status : ServiceError → Nat
  | .movieNotFound _ => 404
  | .query cause => cause.status
  | .storage _ => 500

theorem ServiceError.status_problem (e : ServiceError) (path : String) :
    (e.problem path).status = e.status := by
  cases e with
  | query cause => exact Problem.status_ofQueryError cause path
  | movieNotFound id => rfl
  | storage message => rfl

theorem ServiceError.isStatus_status (e : ServiceError) : Problem.isStatus e.status = true := by
  cases e with
  | query cause => cases cause <;> rfl
  | movieNotFound id => rfl
  | storage message => rfl

/-- The answer to an error has the status of the error. -/
theorem ServiceError.status_toResponse (e : ServiceError) (path : String) :
    (e.problem path).toResponse.status = e.status := by
  have hstatus := e.status_problem path
  simp only [Problem.toResponse, hstatus, e.isStatus_status, if_true]

theorem ParamsError.status_toResponse (e : ParamsError) : e.problem.toResponse.status = 400 := by
  cases e <;> rfl

end Catalog
