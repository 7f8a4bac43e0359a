import Catalog.Http.Server
import Catalog.Proofs.FilterMeaning
import Catalog.Proofs.Paging
import Catalog.Proofs.SegmentAddress
import Catalog.Proofs.ServiceOutcome

/-!
# Answers to list requests

A list request that is accepted is answered with a page of the listing of its filter and sort, on
the address of the collection.

## Key results

- `Links.stripQuery_movies`: the address of the collection, whatever was asked for
- `MovieService.list_eq`: the page of an accepted request
- `Server.respond_list`: its answer
-/

namespace Catalog

/-! ## The address of the collection -/

/-- The address of the collection is what stands before the query. -/
theorem Links.stripQuery_movies (query : List Char) :
    Links.stripQuery (String.ofList ("/movies".toList ++ '?' :: query)) = "/movies" := by
  have hchars : ∀ c ∈ "movies".toList, 0x20 < c.toNat ∧ c ≠ '?' ∧ c ≠ '#' := by simp
  have hparse : RequestAddress.parse? (String.ofList ("/movies".toList ++ '?' :: query)) =
      RequestAddress.parse? "/movies" := RequestAddress.parse?_query rfl hchars query
  rw [Links.stripQuery, hparse]
  rfl

/-! ## The service -/

/-- The predicate of a filter compiles, also that of an absent or empty filter. -/
theorem Filter.exists_compile?_of_accepted {schema : Schema} {filter : Option String}
    {p : Predicate} (h : Filter.compile schema filter = .ok p) :
    ∃ compiled, p.compile? = some compiled := by
  cases filter with
  | none =>
    cases h
    exact ⟨[], rfl⟩
  | some text =>
    by_cases htext : text = ""
    · subst htext
      cases h
      exact ⟨[], rfl⟩
    · exact exists_compile?_of_compile htext h

/-- A positive page and size within the maximum are taken as they are. -/
theorem PageRequest.resolve_eq {page : Option UInt64} {size defaultSize maxSize : UInt64}
    (hpage : page.getD 1 ≠ 0) (hsize : size ≠ 0) (hmax : size ≤ maxSize) :
    PageRequest.resolve page (some size) defaultSize maxSize = .ok ⟨page.getD 1, size⟩ := by
  -- the maximum is taken as at least one, which changes nothing for a positive size
  have hle : size ≤ max maxSize 1 := by
    show size ≤ if maxSize ≤ 1 then 1 else maxSize
    split
    · next h => exact UInt64.le_trans hmax h
    · exact hmax
  have hmin : min size (max maxSize 1) = size := by
    show (if size ≤ max maxSize 1 then size else max maxSize 1) = size
    rw [if_pos hle]
  simp only [resolve, Option.getD_some]
  rw [if_neg hpage, if_neg hsize, hmin]

/-- What the service needs to accept a list request over the store `s`, and what it makes of it. -/
structure MovieService.Accepts (service : MovieService) (s : Store) (params : ListParams)
    (filter : CompiledFilter) (sort : SortSpec) (r : PageRequest) : Prop where
  /-- The service lists the movies of the store. -/
  stored : service.repository = .ofStore s
  /-- The filter is accepted. -/
  compiles : ∃ p, Filter.compile Movie.schema params.filter = .ok p ∧ p.compile? = some filter
  /-- The sort is that of the request or the default one. -/
  sorts : SortSpec.compile params.sort service.defaultSort = sort
  /-- It names fields of movies. -/
  valid : SortSpec.validate Movie.schema sort = .ok ()
  /-- The page is accepted. -/
  pages : PageRequest.resolve params.page params.pageSize service.defaultPageSize
    service.maxPageSize = .ok r

/-- The service answers with the page of the store that was asked for. -/
theorem MovieService.list_eq {service : MovieService} {s : Store} {params : ListParams}
    {filter : CompiledFilter} {sort : SortSpec} {r : PageRequest}
    (h : service.Accepts s params filter sort r) :
    service.list params = .ok (s.page filter sort r) := by
  obtain ⟨hrepository, ⟨p, hcompile, hfilter⟩, rfl, hvalid, hpage⟩ := h
  have hplan := (plan_eq_ok_iff service params ⟨p, _, r⟩).2 ⟨hcompile, rfl, hvalid, hpage⟩
  rw [list_of_plan_ok hplan, hrepository]
  simp only [Repository.ofStore, Store.findPage?_eq hfilter]
  rfl

/-! ## The server -/

namespace Server

/-- A `GET` request is answered with what its route reads. -/
theorem respond_get (server : Server) (request : Request) {route : Route}
    (hmethod : request.method = "GET")
    (hroute : Route.ofPath? request.target.pathText = some route) :
    server.respond request = server.read request.target route := by
  have hbody : ∀ response, withoutBody "GET" response = response := fun _ => rfl
  simp only [respond, hroute, hmethod, hbody, true_or, if_true]

/-- A successful request for movies is answered with the envelope of its page. -/
theorem respond_list {server : Server} {request : Request}
    (hmethod : request.method = "GET") (hpath : request.target.pathText = "/movies".toList)
    {params : ListParams}
    (hparams : ListParams.ofQuery (request.target.query?.getD []) = .ok params)
    {page : Page Movie} (hpage : server.service.list params = .ok page) :
    server.respond request = .json (Links.envelope Movie.id Movie.fields page
      (server.fullUrl request.target) server.links.collection server.links.resource) := by
  have hroute : Route.ofPath? request.target.pathText = some .movies := by
    rw [hpath]
    rfl
  rw [server.respond_get request hmethod hroute]
  simp only [read, listMovies, hparams, hpage]

end Server

end Catalog
