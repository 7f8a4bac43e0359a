import Catalog.Proofs.ClientAgreement
import Catalog.Proofs.StorageCalls

/-!
# Failures of the storage

A storage says in a text why it fails, but nobody outside the service gets to see the text: over two
storages that differ only in the texts of their failures, every request to the server and to the
local client has the same answer. What is wrong with a request is told all the same.

## Key results

- `MovieService.list_alike`, `MovieService.get_alike`: results of the service
- `Server.respond_alike`: answers of the server
- `Server.hides_failures`: the server and the local client
-/

namespace Catalog

/-! ## Texts of failures -/

/-- Results of a storage that are the same up to the text of a failure. -/
inductive SameUpToText {α : Type} : Except String α → Except String α → Prop where
  | found (a : α) : SameUpToText (.ok a) (.ok a)
  | failed (m₁ m₂ : String) : SameUpToText (.error m₁) (.error m₂)

/-- Storages that answer alike, up to the texts of their failures. -/
structure Repository.Alike (r₁ r₂ : Repository) : Prop where
  findById : ∀ id, SameUpToText (r₁.findById id) (r₂.findById id)
  findPage : ∀ filter sort page,
    SameUpToText (r₁.findPage filter sort page) (r₂.findPage filter sort page)

theorem Repository.alike_failing (m₁ m₂ : String) : (failing m₁).Alike (failing m₂) :=
  ⟨fun _ => .failed m₁ m₂, fun _ _ _ => .failed m₁ m₂⟩

/-- Results of the service that are the same up to the text of a storage failure. -/
inductive SameUpToStorage {α : Type} : Except ServiceError α → Except ServiceError α → Prop where
  | same (x : Except ServiceError α) : SameUpToStorage x x
  | failed (m₁ m₂ : String) : SameUpToStorage (.error (.storage m₁)) (.error (.storage m₂))

section

variable {α : Type}

theorem SameUpToText.mapError {x y : Except String α} (h : SameUpToText x y) :
    SameUpToStorage (x.mapError .storage) (y.mapError .storage) := by
  cases h with
  | found a => exact .same _
  | failed m₁ m₂ => exact .failed m₁ m₂

/-- Local clients are told the same. -/
theorem SameUpToStorage.told {x y : Except ServiceError α} (h : SameUpToStorage x y) :
    x.mapError ClientError.ofServiceError = y.mapError ClientError.ofServiceError := by
  cases h <;> rfl

end

/-! ## The service -/

namespace MovieService

/-- The service with the same settings over another storage. -/
def backedBy (service : MovieService) (r : Repository) : MovieService :=
  { service with repository := r }

variable (service : MovieService) {r₁ r₂ : Repository}

/-- What a request comes down to does not depend on the storage. -/
theorem plan_backedBy (r : Repository) (params : ListParams) :
    (service.backedBy r).plan params = service.plan params :=
  rfl

theorem list_alike (h : r₁.Alike r₂) (params : ListParams) :
    SameUpToStorage ((service.backedBy r₁).list params) ((service.backedBy r₂).list params) := by
  have hplan := fun r => service.plan_backedBy r params
  -- a fault of the request comes first, over both storages
  cases hcall : service.plan params with
  | error cause =>
    rw [list_of_plan_error ((hplan r₁).trans hcall), list_of_plan_error ((hplan r₂).trans hcall)]
    exact .same _
  | ok call =>
    rw [list_of_plan_ok ((hplan r₁).trans hcall), list_of_plan_ok ((hplan r₂).trans hcall)]
    exact (h.findPage _ _ _).mapError

theorem get_alike (h : r₁.Alike r₂) (id : String) :
    SameUpToStorage ((service.backedBy r₁).get id) ((service.backedBy r₂).get id) := by
  have hrepository : ∀ r, (service.backedBy r).repository = r := fun _ => rfl
  have hfound := h.findById id
  rw [get_eq, get_eq, hrepository, hrepository]
  generalize r₁.findById id = x, r₂.findById id = y at hfound
  cases hfound with
  | found movie? => exact .same _
  | failed m₁ m₂ => exact .failed m₁ m₂

end MovieService

/-! ## The server -/

namespace Server

/-- The server with the same settings over another storage. -/
def backedBy (server : Server) (r : Repository) : Server :=
  { server with service := server.service.backedBy r }

variable (server : Server) {r₁ r₂ : Repository}

theorem listMovies_alike (h : r₁.Alike r₂) (target : RequestTarget) :
    (server.backedBy r₁).listMovies target = (server.backedBy r₂).listMovies target := by
  cases hquery : ListParams.ofQuery (target.query?.getD []) with
  | error fault => simp only [listMovies, hquery]
  | ok params =>
    have hlist : SameUpToStorage ((server.backedBy r₁).service.list params)
        ((server.backedBy r₂).service.list params) := server.service.list_alike h params
    simp only [listMovies, hquery]
    generalize (server.backedBy r₁).service.list params = x,
      (server.backedBy r₂).service.list params = y at hlist
    -- links are made of the settings, and the problem of a failure leaves its text out
    cases hlist with
    | same x => cases x <;> rfl
    | failed m₁ m₂ => rfl

theorem getMovie_alike (h : r₁.Alike r₂) (target : RequestTarget) (segment : List Char) :
    (server.backedBy r₁).getMovie target segment =
      (server.backedBy r₂).getMovie target segment := by
  cases hid : Text.decodeUtf8? (Percent.decode segment) with
  | none => simp only [getMovie, hid]
  | some id =>
    have hget : SameUpToStorage ((server.backedBy r₁).service.get (String.ofList id))
        ((server.backedBy r₂).service.get (String.ofList id)) :=
      server.service.get_alike h (String.ofList id)
    simp only [getMovie, hid]
    generalize (server.backedBy r₁).service.get (String.ofList id) = x,
      (server.backedBy r₂).service.get (String.ofList id) = y at hget
    cases hget with
    | same x => cases x <;> rfl
    | failed m₁ m₂ => rfl

theorem respond_alike (h : r₁.Alike r₂) (request : Request) :
    (server.backedBy r₁).respond request = (server.backedBy r₂).respond request := by
  have hread : ∀ route, (server.backedBy r₁).read request.target route =
      (server.backedBy r₂).read request.target route := by
    intro route
    cases route with
    | health => rfl
    | description => rfl
    | movies => exact server.listMovies_alike h request.target
    | movie segment => exact server.getMovie_alike h request.target segment
  simp only [respond, hread]

/-- A server over any storage tells that the parameters of a listing cannot be read. -/
theorem tells_params_error {request : Request} {fault : ParamsError}
    (hreads : request.Reads .movies)
    (hquery : ListParams.ofQuery (request.target.query?.getD []) = .error fault) (r : Repository) :
    (server.backedBy r).respond request = fault.problem.toResponse := by
  rw [respond_of_reads _ hreads, read, listMovies_of_fault hquery]

/-- A server over any storage and its local client tell the first fault of a query. -/
theorem tells_query_error {params : ListParams} {cause : QueryError}
    (hfault : server.service.FirstFault params cause) (r : Repository) :
    LocalClient.list ⟨server.service.backedBy r⟩ params =
      .error (.invalidQuery cause.code cause.message) ∧
    ∀ request : Request, request.Reads .movies →
      ListParams.ofQuery (request.target.query?.getD []) = .ok params →
      (server.backedBy r).respond request =
        (Problem.ofQueryError cause (place request.target)).toResponse := by
  have hplan : (server.service.backedBy r).plan params = .error cause :=
    (server.service.plan_backedBy r params).trans (MovieService.plan_eq_error_iff.2 hfault)
  have hlist : (server.backedBy r).service.list params = .error (.query cause) :=
    MovieService.list_of_plan_error hplan
  refine ⟨congrArg (Except.mapError _) hlist, fun request hreads hquery => ?_⟩
  rw [respond_of_reads _ hreads, read, listMovies_of_error hquery hlist, ServiceError.problem]

/-- Whatever a storage says when it fails, neither the server nor the local client tells: over any
two storages that answer alike but for the texts of their failures, all their answers are equal.
What is wrong with a query is told, over any storage. -/
theorem hides_failures :
    (∀ m₁ m₂ : String, (Repository.failing m₁).Alike (.failing m₂)) ∧
    (∀ (server : Server) (r₁ r₂ : Repository), r₁.Alike r₂ →
      (∀ fresh request,
        (server.backedBy r₁).reply fresh request = (server.backedBy r₂).reply fresh request) ∧
      (∀ params, LocalClient.list ⟨server.service.backedBy r₁⟩ params =
        LocalClient.list ⟨server.service.backedBy r₂⟩ params) ∧
      ∀ id, LocalClient.get ⟨server.service.backedBy r₁⟩ id =
        LocalClient.get ⟨server.service.backedBy r₂⟩ id) ∧
    (∀ (server : Server) (r : Repository) (request : Request) (fault : ParamsError),
      request.Reads .movies →
      ListParams.ofQuery (request.target.query?.getD []) = .error fault →
      (server.backedBy r).respond request = fault.problem.toResponse) ∧
    ∀ (server : Server) (r : Repository) (params : ListParams) (cause : QueryError),
      server.service.FirstFault params cause →
      LocalClient.list ⟨server.service.backedBy r⟩ params =
        .error (.invalidQuery cause.code cause.message) ∧
      ∀ request : Request, request.Reads .movies →
        ListParams.ofQuery (request.target.query?.getD []) = .ok params →
        (server.backedBy r).respond request =
          (Problem.ofQueryError cause (place request.target)).toResponse := by
  refine ⟨Repository.alike_failing, fun server r₁ r₂ halike => ⟨?_, ?_, ?_⟩, ?_, ?_⟩
  · intro fresh request
    rw [reply, reply, server.respond_alike halike request]
  · exact fun params => (server.service.list_alike halike params).told
  · exact fun id => (server.service.get_alike halike id).told
  · exact fun server r request fault hreads hquery => server.tells_params_error hreads hquery r
  · exact fun server r params cause hfault => server.tells_query_error hfault r

/-- A server whose disk burns. -/
def burning : Server :=
  sample.backedBy (.failing "disk on fire")

/-- A server that has no memory left. -/
def exhausted : Server :=
  sample.backedBy (.failing "out of memory")

/-- A burning disk and a full memory look the same from outside. A page and a year that are no
numbers are told meanwhile. -/
theorem hides_failures_sample :
    (Repository.failing "disk on fire").Alike (.failing "out of memory") ∧
    burning.reply "7" (.listing none none) = exhausted.reply "7" (.listing none none) ∧
    LocalClient.list ⟨burning.service⟩ {} = LocalClient.list ⟨exhausted.service⟩ {} ∧
    LocalClient.list ⟨burning.service⟩ {} = .error .internal ∧
    LocalClient.get ⟨burning.service⟩ "a" = LocalClient.get ⟨exhausted.service⟩ "a" ∧
    burning.respond (.listing (some "page=two".toList) none) =
      (ParamsError.invalidNumber "page" .invalidDigit).problem.toResponse ∧
    LocalClient.list ⟨burning.service⟩ { filter := some "year:now" } =
      .error (.invalidQuery "QUERY_INVALID_VALUE"
        "invalid value 'now' for field 'year': expected integer") ∧
    burning.respond (.listing (some "filter=year:now".toList) none) =
      (Problem.ofQueryError (.invalidValue "year" "now" "integer") "/movies").toResponse := by
  obtain ⟨halike, hequal, hparams, hquery⟩ := hides_failures
  have hdisk := halike "disk on fire" "out of memory"
  obtain ⟨hreply, hlist, hget⟩ := hequal sample _ _ hdisk
  -- the filter is looked at before the storage
  have hfault : sample.service.FirstFault { filter := some "year:now" }
      (.invalidValue "year" "now" "integer") := .filter rfl
  obtain ⟨htold, hanswer⟩ := hquery sample (.failing "disk on fire") _ _ hfault
  exact ⟨hdisk, hreply "7" _, hlist {}, rfl, hget "a",
    hparams sample _ _ _ (Request.reads_listing _ _) (by decide +kernel), htold,
    hanswer _ (Request.reads_listing _ _) (by decide +kernel)⟩

end Server

end Catalog
