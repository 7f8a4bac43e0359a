import Catalog.Proofs.AcceptedPages
import Catalog.Proofs.ServiceOutcome

/-!
# Calls of the storage

A list request that is valid asks the storage for one page, which is built from the filter, the sort
and the page parameters of the request. Any other request is refused for its first fault, and the
storage is not asked at all.

## Key results

- `SortSpec.validate_eq_error_iff`, `PageRequest.resolve_eq_error_iff`: the faults of each part
- `MovieService.asks_of_plan`, `MovieService.plan_eq_error_iff`: what comes of compiling a request
- `MovieService.calls_storage_once`: the calls of a storage of any kind
-/

namespace Catalog

/-! ## Faults of the sort and the page -/

namespace SortSpec

variable {schema : Schema} {spec : SortSpec}

/-- A sort is accepted when the schema has all its fields. -/
theorem validate_eq_ok_iff :
    spec.validate schema = .ok () ↔ ∀ key ∈ spec, schema.contains key.field = true := by
  rw [validate]
  split
  · next key hkey =>
    have hmissing : schema.contains key.field = false := by simpa using List.find?_some hkey
    have hmem := List.mem_of_find?_eq_some hkey
    exact ⟨nofun, fun h => absurd (h key hmem) (by simp [hmissing])⟩
  · next hnone => simpa using hnone

/-- A sort is refused for the first of its fields that the schema lacks. -/
theorem validate_eq_error_iff {e : QueryError} :
    spec.validate schema = .error e ↔
      ∃ before key after, spec = before ++ key :: after ∧
        (∀ k ∈ before, schema.contains k.field = true) ∧ schema.contains key.field = false ∧
        e = .invalidField key.field := by
  constructor
  · intro h
    rw [validate] at h
    split at h
    · next key hkey =>
      obtain ⟨hmissing, before, after, hspec, hbefore⟩ := List.find?_eq_some_iff_append.1 hkey
      cases h
      exact ⟨before, key, after, hspec, by simpa using hbefore, by simpa using hmissing, rfl⟩
    · cases h
  · rintro ⟨before, key, after, hspec, hbefore, hmissing, rfl⟩
    have hkey : spec.find? (fun key => !schema.contains key.field) = some key :=
      List.find?_eq_some_iff_append.2
        ⟨by simpa using hmissing, before, after, hspec, by simpa using hbefore⟩
    simp [validate, hkey]

end SortSpec

namespace PageRequest

variable {page pageSize : Option UInt64} {defaultSize maxSize : UInt64}

/-- A page is accepted when neither its number nor its size is zero. -/
theorem resolve_eq_ok_iff {r : PageRequest} :
    resolve page pageSize defaultSize maxSize = .ok r ↔
      page ≠ some 0 ∧ pageSize.getD defaultSize ≠ 0 ∧
        r = ⟨page.getD 1, min (pageSize.getD defaultSize) (max maxSize 1)⟩ := by
  have hzero : page.getD 1 = 0 ↔ page = some 0 := by cases page <;> simp
  simp only [resolve, hzero]
  by_cases hpage : page = some 0
  · simp [hpage]
  · by_cases hsize : pageSize.getD defaultSize = 0
    · simp [hpage, hsize]
    · simp [hpage, hsize, eq_comm]

/-- Of two zeros, the number of the page is the fault. -/
theorem resolve_eq_error_iff {e : QueryError} :
    resolve page pageSize defaultSize maxSize = .error e ↔
      (page = some 0 ∧ e = .invalidPage) ∨
        (page ≠ some 0 ∧ pageSize.getD defaultSize = 0 ∧ e = .invalidPageSize) := by
  have hzero : page.getD 1 = 0 ↔ page = some 0 := by cases page <;> simp
  simp only [resolve, hzero]
  by_cases hpage : page = some 0
  · simp [hpage, eq_comm]
  · by_cases hsize : pageSize.getD defaultSize = 0
    · simp [hpage, hsize, eq_comm]
    · simp [hpage, hsize]

end PageRequest

/-! ## Requests -/

namespace MovieService

/-- What a list request must meet: its filter compiles, movies have the fields of its sort, and
neither its page nor its page size is zero. -/
structure Admits (service : MovieService) (params : ListParams) : Prop where
  filter : ∃ p, Filter.compile Movie.schema params.filter = .ok p
  sort : ∀ key ∈ SortSpec.compile params.sort service.defaultSort,
    Movie.schema.contains key.field = true
  page : params.page ≠ some 0
  pageSize : params.pageSize.getD service.defaultPageSize ≠ 0

/-- What a list request asks the storage for: its filter, compiled, its sort or the default one, and
its page, which has room for an item and for no more than the maximum. -/
structure Asks (service : MovieService) (params : ListParams) (call : PageCall) : Prop where
  filter : Filter.compile Movie.schema params.filter = .ok call.filter
  defaultSort : params.sort.getD "" = "" → call.sort = service.defaultSort
  givenSort : ∀ text, params.sort = some text → text ≠ "" →
    call.sort = SortSpec.compile (some text) []
  page : call.page.page = params.page.getD 1
  pageSize : call.page.pageSize =
    min (params.pageSize.getD service.defaultPageSize) (max service.maxPageSize 1)
  one_le_page : 1 ≤ call.page.page
  one_le_pageSize : 1 ≤ call.page.pageSize
  pageSize_le : call.page.pageSize ≤ max service.maxPageSize 1

/-- The first fault of a list request, in the order of filter, sort, page and page size. -/
inductive FirstFault (service : MovieService) (params : ListParams) : QueryError → Prop where
  | filter {cause : QueryError}
      (hfilter : Filter.compile Movie.schema params.filter = .error cause) :
      FirstFault service params cause
  | sort {p : Predicate} {before after : SortSpec} {key : SortKey}
      (hfilter : Filter.compile Movie.schema params.filter = .ok p)
      (hsort : SortSpec.compile params.sort service.defaultSort = before ++ key :: after)
      (hbefore : ∀ k ∈ before, Movie.schema.contains k.field = true)
      (hkey : Movie.schema.contains key.field = false) :
      FirstFault service params (.invalidField key.field)
  | page {p : Predicate} (hfilter : Filter.compile Movie.schema params.filter = .ok p)
      (hsort : ∀ key ∈ SortSpec.compile params.sort service.defaultSort,
        Movie.schema.contains key.field = true)
      (hpage : params.page = some 0) : FirstFault service params .invalidPage
  | pageSize {p : Predicate} (hfilter : Filter.compile Movie.schema params.filter = .ok p)
      (hsort : ∀ key ∈ SortSpec.compile params.sort service.defaultSort,
        Movie.schema.contains key.field = true)
      (hpage : params.page ≠ some 0)
      (hpageSize : params.pageSize.getD service.defaultPageSize = 0) :
      FirstFault service params .invalidPageSize

variable {service : MovieService} {params : ListParams}

/-- A request that compiles asks for its page. -/
theorem asks_of_plan {call : PageCall} (h : service.plan params = .ok call) :
    service.Asks params call := by
  obtain ⟨hfilter, hsort, -, hresolve⟩ := (plan_eq_ok_iff service params call).1 h
  obtain ⟨hpage, -, hcall⟩ := PageRequest.resolve_eq_ok_iff.1 hresolve
  obtain ⟨hsize, hmax⟩ := PageRequest.pageSize_bounds hresolve
  have hone : ∀ n : UInt64, n ≠ 0 → 1 ≤ n := fun n hn =>
    UInt64.le_iff_toNat_le.2 (toNat_pos_of_ne_zero hn)
  constructor
  case filter => exact hfilter
  case defaultSort =>
    intro hnone
    rw [← hsort]
    cases hgiven : params.sort with
    | none => rfl
    | some text =>
      obtain rfl : text = "" := by simpa [hgiven] using hnone
      rfl
  case givenSort =>
    intro text hgiven hne
    have hempty : text.isEmpty = false := by simpa using hne
    simp [← hsort, hgiven, SortSpec.compile, hempty]
  case page => rw [hcall]
  case pageSize => rw [hcall]
  case one_le_page =>
    refine hone _ ?_
    rw [hcall]
    cases hgiven : params.page with
    | none => exact show (1 : UInt64) ≠ 0 by decide
    | some n =>
      rintro rfl
      exact hpage hgiven
  case one_le_pageSize => exact hone _ hsize
  case pageSize_le => exact hmax

/-- A request that does not compile is refused for its first fault. -/
theorem plan_eq_error_iff {cause : QueryError} :
    service.plan params = .error cause ↔ service.FirstFault params cause := by
  rw [plan_eq]
  constructor
  · intro h
    split at h
    · next hfilter =>
      cases h
      exact .filter hfilter
    · next hfilter hvalid =>
      cases h
      obtain ⟨before, key, after, hsort, hbefore, hkey, rfl⟩ :=
        SortSpec.validate_eq_error_iff.1 hvalid
      exact .sort hfilter hsort hbefore hkey
    · next hfilter hvalid hresolve =>
      cases h
      have hsort := SortSpec.validate_eq_ok_iff.1 hvalid
      rcases PageRequest.resolve_eq_error_iff.1 hresolve with ⟨hpage, rfl⟩ | ⟨hpage, hsize, rfl⟩
      · exact .page hfilter hsort hpage
      · exact .pageSize hfilter hsort hpage hsize
    · cases h
  · intro h
    -- the parts in front of the fault are accepted
    cases h with
    | filter hfilter => simp only [hfilter]
    | sort hfilter hsort hbefore hkey =>
      have hvalid := SortSpec.validate_eq_error_iff.2 ⟨_, _, _, hsort, hbefore, hkey, rfl⟩
      simp only [hfilter, hvalid]
    | page hfilter hsort hpage =>
      have hresolve : PageRequest.resolve params.page params.pageSize service.defaultPageSize
          service.maxPageSize = .error .invalidPage :=
        PageRequest.resolve_eq_error_iff.2 (.inl ⟨hpage, rfl⟩)
      simp only [hfilter, SortSpec.validate_eq_ok_iff.2 hsort, hresolve]
    | pageSize hfilter hsort hpage hsize =>
      have hresolve : PageRequest.resolve params.page params.pageSize service.defaultPageSize
          service.maxPageSize = .error .invalidPageSize :=
        PageRequest.resolve_eq_error_iff.2 (.inr ⟨hpage, hsize, rfl⟩)
      simp only [hfilter, SortSpec.validate_eq_ok_iff.2 hsort, hresolve]

/-- The requests that compile are those that meet all conditions. -/
theorem admits_iff : service.Admits params ↔ ∃ call, service.plan params = .ok call := by
  constructor
  · rintro ⟨⟨p, hfilter⟩, hsort, hpage, hsize⟩
    exact ⟨⟨p, _, _⟩, (plan_eq_ok_iff _ _ _).2 ⟨hfilter, rfl, SortSpec.validate_eq_ok_iff.2 hsort,
      PageRequest.resolve_eq_ok_iff.2 ⟨hpage, hsize, rfl⟩⟩⟩
  · rintro ⟨call, h⟩
    obtain ⟨hfilter, hsort, hvalid, hresolve⟩ := (plan_eq_ok_iff _ _ _).1 h
    obtain ⟨hpage, hsize, -⟩ := PageRequest.resolve_eq_ok_iff.1 hresolve
    exact ⟨⟨_, hfilter⟩, hsort ▸ SortSpec.validate_eq_ok_iff.1 hvalid, hpage, hsize⟩

/-! ## Storages -/

/-- Keep the calls of a storage, in order, and pass them on. -/
def recorded {m : Type → Type} [Monad m] (fetch : PageCall → m (Except String (Page Movie)))
    (call : PageCall) : StateT (List PageCall) m (Except String (Page Movie)) := do
  modify (· ++ [call])
  fetch call

section

variable {m : Type → Type} [Monad m]

theorem listWith_of_plan_ok (fetch : PageCall → m (Except String (Page Movie))) {call : PageCall}
    (h : service.plan params = .ok call) :
    service.listWith fetch params = do return (← fetch call).mapError .storage := by
  simp only [listWith, h]

theorem listWith_of_plan_error (fetch : PageCall → m (Except String (Page Movie)))
    {cause : QueryError} (h : service.plan params = .error cause) :
    service.listWith fetch params = pure (.error (.query cause)) := by
  simp only [listWith, h]

variable [LawfulMonad m] (fetch : PageCall → m (Except String (Page Movie)))
  (earlier : List PageCall)

theorem run_recorded (call : PageCall) :
    (recorded fetch call).run earlier =
      (fun found => (found, earlier ++ [call])) <$> fetch call := by
  simp [recorded]

/-- Recording the calls does not change what comes of a request. -/
theorem map_fst_run_recorded :
    Prod.fst <$> (service.listWith (recorded fetch) params).run earlier =
      service.listWith fetch params := by
  cases hplan : service.plan params with
  | error cause =>
    rw [listWith_of_plan_error _ hplan, listWith_of_plan_error _ hplan]
    simp
  | ok call =>
    rw [listWith_of_plan_ok _ hplan, listWith_of_plan_ok _ hplan]
    simp [run_recorded]

end

/-- A list request calls the storage once if it is valid, and is answered with what the storage
found; otherwise it never calls the storage and is answered with its first fault. The storage may
answer as it likes, in any monad: recording its calls does not change the answer. -/
theorem calls_storage_once {m : Type → Type} [Monad m] [LawfulMonad m] (service : MovieService)
    (fetch : PageCall → m (Except String (Page Movie))) (params : ListParams)
    (earlier : List PageCall) :
    Prod.fst <$> (service.listWith (recorded fetch) params).run earlier =
      service.listWith fetch params ∧
    (service.Admits params → ∃ call, service.Asks params call ∧
      (service.listWith (recorded fetch) params).run earlier =
        (fun found => (found.mapError .storage, earlier ++ [call])) <$> fetch call) ∧
    (¬ service.Admits params → ∃ cause, service.FirstFault params cause ∧
      (service.listWith (recorded fetch) params).run earlier =
        pure (.error (.query cause), earlier)) := by
  refine ⟨map_fst_run_recorded fetch earlier, fun hadmits => ?_, fun hadmits => ?_⟩
  · obtain ⟨call, hplan⟩ := admits_iff.1 hadmits
    refine ⟨call, asks_of_plan hplan, ?_⟩
    rw [listWith_of_plan_ok _ hplan]
    simp [run_recorded]
  · cases hplan : service.plan params with
    | ok call => exact absurd (admits_iff.2 ⟨call, hplan⟩) hadmits
    | error cause =>
      refine ⟨cause, plan_eq_error_iff.1 hplan, ?_⟩
      rw [listWith_of_plan_error _ hplan]
      rfl

/-- A storage that is busy at its first call and finds nothing later; it counts its calls. -/
def busyAtFirst (call : PageCall) : StateM Nat (Except String (Page Movie)) := fun n =>
  (if n = 0 then .error "busy" else .ok ⟨[], call.page.describe 0⟩, n + 1)

/-- A service with the usual settings. -/
def usualService : MovieService :=
  ⟨.failing "busy", 20, 100, MovieSettings.defaultSortSpec {}⟩

/-- The movies of 1979, with an empty sort and more of them than a page may have. -/
def largeRequest : ListParams :=
  { filter := some "year:1979", sort := some "", pageSize := some 1000 }

/-- A request of which neither the filter nor the page is valid. -/
def faultyRequest : ListParams :=
  { filter := some "year:now", page := some 0 }

/-- The large request calls the busy storage with the default sort and the greatest page; of the
faulty one the filter is the first fault. -/
theorem calls_storage_once_sample :
    usualService.Admits largeRequest ∧
    (∃ call, usualService.Asks largeRequest call ∧ call.sort = [⟨"year", .desc⟩] ∧
      call.page = ⟨1, 100⟩ ∧
      ((usualService.listWith (recorded busyAtFirst) largeRequest).run []).run 0 =
        ((.error (.storage "busy"), [call]), 1)) ∧
    ¬ usualService.Admits faultyRequest ∧
    ((usualService.listWith (recorded busyAtFirst) faultyRequest).run []).run 0 =
      ((.error (.query (.invalidValue "year" "now" "integer")), []), 0) := by
  have hvalid : usualService.Admits largeRequest :=
    ⟨⟨_, rfl⟩, by decide, by decide, by decide⟩
  have hfaulty : ¬ usualService.Admits faultyRequest := fun h => h.page rfl
  have hfilter : Filter.compile Movie.schema faultyRequest.filter =
      .error (.invalidValue "year" "now" "integer") := rfl
  obtain ⟨-, hcalled, -⟩ := calls_storage_once usualService busyAtFirst largeRequest []
  obtain ⟨-, -, hrefused⟩ := calls_storage_once usualService busyAtFirst faultyRequest []
  refine ⟨hvalid, ?_, hfaulty, ?_⟩
  · obtain ⟨call, hasks, hrun⟩ := hcalled hvalid
    refine ⟨call, hasks, hasks.defaultSort rfl, ?_, ?_⟩
    · rw [show call.page = ⟨call.page.page, call.page.pageSize⟩ from rfl, hasks.page,
        hasks.pageSize]
      rfl
    · rw [hrun]
      rfl
  · obtain ⟨cause, hfault, hrun⟩ := hrefused hfaulty
    rw [hrun]
    -- no later fault is the first one
    cases hfault with
    | filter h =>
      cases hfilter.symm.trans h
      rfl
    | sort h _ _ _ => cases hfilter.symm.trans h
    | page h _ _ => cases hfilter.symm.trans h
    | pageSize h _ _ _ => cases hfilter.symm.trans h

end MovieService

end Catalog
