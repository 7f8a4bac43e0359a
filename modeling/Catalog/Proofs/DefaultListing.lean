import Catalog.Movie.Startup
import Catalog.Proofs.ClientAgreement
import Catalog.Proofs.StorageCalls

/-!
# Listing without parameters

A request that names no parameter is answered with the first page of the whole collection in its
default order. Settings are accepted with any page sizes, but a default size of zero is refused at
every such request, as if the client had sent it.

## Key results

- `ListParams.ofQuery_of_not_mem_names`: a query without known names has no parameters
- `Startup.serve_eq_ok_iff`: the settings that are accepted
- `Startup.serves_defaults`: the answers to requests without parameters
-/

namespace Catalog

/-! ## Queries without parameters -/

namespace ListParams

/-- The names of the parameters. -/
def names : List String := ["filter", "sort", "page", "pageSize"]

variable {p : ListParams}

/-- A pair of another name is passed over. -/
theorem take_of_not_mem_names {pair : String × String} (h : pair.1 ∉ names) :
    p.take pair = .ok p := by
  obtain ⟨name, value⟩ := pair
  -- the last rule is that of the names which none of the other rules has
  rw [take] <;> (rintro rfl; exact h (by simp [names]))

theorem foldlM_take_of_not_mem_names {pairs : List (String × String)}
    (h : ∀ pair ∈ pairs, pair.1 ∉ names) : pairs.foldlM take p = .ok p := by
  induction pairs with
  | nil => rfl
  | cons pair rest ih =>
    obtain ⟨hpair, hrest⟩ := List.forall_mem_cons.1 h
    rw [List.foldlM_cons, take_of_not_mem_names hpair]
    exact ih hrest

/-- A query that names no parameter has none. -/
theorem ofQuery_of_not_mem_names {query : List Char}
    (h : ∀ pair ∈ Form.pairs query, pair.1 ∉ names) : ofQuery query = .ok {} := by
  rw [ofQuery, foldlM_take_of_not_mem_names h]
  rfl

end ListParams

/-- A request for the listing that names no parameter. -/
structure Request.IsBareListing (request : Request) : Prop extends request.Reads .movies where
  unnamed : ∀ pair ∈ Form.pairs (request.target.query?.getD []), pair.1 ∉ ListParams.names

/-- The server answers a request without parameters as it answers its local client. -/
theorem Server.respond_bareListing (server : Server) {request : Request}
    (h : request.IsBareListing) :
    (server.respond request).ShowsList (LocalClient.list ⟨server.service⟩ {}) := by
  rw [server.respond_of_reads h.toReads]
  exact listMovies_showsList (ListParams.ofQuery_of_not_mem_names h.unnamed)

/-! ## Settings -/

namespace Startup

variable {settings : MovieSettings} {store : Store} {service : MovieService}

/-- Settings are accepted when movies have the fields of the default sort, whatever the sizes of
pages. -/
theorem serve_eq_ok_iff :
    serve settings store = .ok service ↔
      (∀ key ∈ settings.defaultSortSpec, Movie.schema.contains key.field = true) ∧
      service = ⟨.ofStore store, settings.defaultPageSize, settings.maxPageSize,
        settings.defaultSortSpec⟩ := by
  rw [← SortSpec.validate_eq_ok_iff, ← MovieService.create_eq_ok_iff, serve]
  cases MovieService.create (.ofStore store) settings with
  | error e => simp [Except.mapError]
  | ok created => simp [Except.mapError]

/-- The first page of the whole collection, in the default order, with the default number of
items. -/
def firstPage (settings : MovieSettings) (store : Store) : Page Movie :=
  store.page [] settings.defaultSortSpec
    ⟨1, min settings.defaultPageSize (max settings.maxPageSize 1)⟩

/-- The local client gets the first page when it gives no parameters, but for a default size of
zero. -/
theorem list_default (h : serve settings store = .ok service) :
    LocalClient.list ⟨service⟩ {} =
      if settings.defaultPageSize = 0 then
        .error (.invalidQuery "QUERY_INVALID_PAGE_SIZE" "pageSize must be a positive integer")
      else .ok (firstPage settings store) := by
  obtain ⟨hsort, rfl⟩ := serve_eq_ok_iff.1 h
  have hvalid := SortSpec.validate_eq_ok_iff.2 hsort
  split
  · next hsize =>
    -- filter and sort pass, so the size is the first fault
    have hplan : MovieService.plan ⟨.ofStore store, settings.defaultPageSize,
        settings.maxPageSize, settings.defaultSortSpec⟩ {} = .error .invalidPageSize :=
      MovieService.plan_eq_error_iff.2
        (.pageSize (show Filter.compile Movie.schema none = .ok .empty from rfl) hsort nofun hsize)
    rw [LocalClient.list, MovieService.list_of_plan_error hplan]
    rfl
  · next hsize =>
    have haccepts : MovieService.Accepts ⟨.ofStore store, settings.defaultPageSize,
        settings.maxPageSize, settings.defaultSortSpec⟩ store {} [] settings.defaultSortSpec
        ⟨1, min settings.defaultPageSize (max settings.maxPageSize 1)⟩ :=
      ⟨rfl, ⟨.empty, rfl, rfl⟩, rfl, hvalid,
        PageRequest.resolve_eq_ok_iff.2 ⟨nofun, hsize, rfl⟩⟩
    rw [LocalClient.list, MovieService.list_eq haccepts]
    rfl

theorem status_default (h : serve settings store = .ok service) {request : Request}
    (hbare : request.IsBareListing) :
    ((Server.create service settings).respond request).status =
      if settings.defaultPageSize = 0 then 422 else 200 := by
  have hshows : ((Server.create service settings).respond request).ShowsList
      (LocalClient.list ⟨service⟩ {}) := Server.respond_bareListing _ hbare
  rw [list_default h] at hshows
  by_cases hsize : settings.defaultPageSize = 0
  · rw [if_pos hsize] at hshows ⊢
    obtain ⟨code, text, herror, -, hstatus⟩ := hshows.refused _ rfl nofun
    cases herror
    exact hstatus
  · rw [if_neg hsize] at hshows ⊢
    exact hshows.ok_iff.2 ⟨_, rfl⟩

/-- Whatever settings are accepted, a request without parameters gets the first page, from the
server and from the local client, unless the default size of a page is zero. Then it is refused, and
the fault is put down to the `pageSize` of the client. -/
theorem serves_defaults (h : serve settings store = .ok service) :
    LocalClient.list ⟨service⟩ {} =
      (if settings.defaultPageSize = 0 then
        .error (.invalidQuery "QUERY_INVALID_PAGE_SIZE" "pageSize must be a positive integer")
      else .ok (firstPage settings store)) ∧
    ∀ request : Request, request.IsBareListing →
      ((Server.create service settings).respond request).ShowsList
        (LocalClient.list ⟨service⟩ {}) ∧
      ((Server.create service settings).respond request).status =
        if settings.defaultPageSize = 0 then 422 else 200 :=
  ⟨list_default h, fun _ hbare => ⟨Server.respond_bareListing _ hbare, status_default h hbare⟩⟩

/-- With the usual settings, all three movies are on the first page, also for a request with a
parameter that listings do not have. -/
theorem serves_defaults_sample :
    ∃ service, serve {} Store.sample = .ok service ∧
      LocalClient.list ⟨service⟩ {} = .ok (firstPage {} Store.sample) ∧
      (firstPage {} Store.sample).items.map Movie.id = ["b", "a", "c"] ∧
      (Request.listing (some "lang=en".toList) none).IsBareListing ∧
      ((Server.create service {}).respond (.listing (some "lang=en".toList) none)).status =
        200 := by
  have hserve := serve_eq_ok_iff.2 ⟨(show ∀ key ∈ MovieSettings.defaultSortSpec {},
    Movie.schema.contains key.field = true by decide), Eq.refl
      (⟨.ofStore Store.sample, 20, 100, MovieSettings.defaultSortSpec {}⟩ : MovieService)⟩
  have hpairs : Form.pairs "lang=en".toList = [("lang", "en")] := by decide +kernel
  have hbare : (Request.listing (some "lang=en".toList) none).IsBareListing := by
    refine ⟨Request.reads_listing _ _, ?_⟩
    show ∀ pair ∈ Form.pairs "lang=en".toList, pair.1 ∉ ListParams.names
    rw [hpairs]
    decide
  obtain ⟨hlist, hrespond⟩ := serves_defaults hserve
  exact ⟨_, hserve, hlist, by decide, hbare, (hrespond _ hbare).2⟩

/-- A default size of zero is accepted, and then a request without parameters is refused. -/
theorem exists_default_refused :
    ∃ service, serve { defaultPageSize := 0 } [] = .ok service ∧
      (∀ page, LocalClient.list ⟨service⟩ {} ≠ .ok page) ∧
      (Request.listing none none).IsBareListing ∧
      ((Server.create service { defaultPageSize := 0 }).respond (.listing none none)).status =
        422 := by
  have hserve := serve_eq_ok_iff.2 ⟨(show ∀ key ∈ MovieSettings.defaultSortSpec
    { defaultPageSize := 0 }, Movie.schema.contains key.field = true by decide), Eq.refl
      (⟨.ofStore [], 0, 100, MovieSettings.defaultSortSpec {}⟩ : MovieService)⟩
  have hbare : (Request.listing none none).IsBareListing := ⟨Request.reads_listing _ _, nofun⟩
  refine ⟨_, hserve, fun page hpage => ?_, hbare, status_default hserve hbare⟩
  rw [list_default hserve] at hpage
  cases hpage

end Startup

end Catalog
