import Catalog.Proofs.Paging
import Catalog.Proofs.SortText
import Catalog.Proofs.StorageCalls

/-!
# The sort in force when none is given

The default sort is compiled once, when the service is made, and then stands in for the sort of
every request that gives none. To give the text of the default sort comes to the same, since its
keys do not depend on a default, or are none.

## Key results

- `SortSpec.compile_default`: three ways to ask for the default sort
- `MovieService.fault_of_sort_none`: without a sort, only filter and page can be at fault
- `MovieService.list_default_sort`: the listings of the three ways
-/

namespace Catalog

/-- The ways to ask for the default sort: no sort, an empty one, and the text of the settings. -/
def MovieSettings.defaultSorts (settings : MovieSettings) : List (Option String) :=
  [none, some "", some settings.defaultSort]

/-- The default sort is in force in each way to ask for it. -/
theorem SortSpec.compile_default {settings : MovieSettings} {sort : Option String}
    (h : sort ∈ settings.defaultSorts) :
    compile sort settings.defaultSortSpec = settings.defaultSortSpec := by
  simp only [MovieSettings.defaultSorts, List.mem_cons, List.not_mem_nil, or_false] at h
  rcases h with rfl | rfl | rfl
  · rfl
  · rfl
  · -- the empty text stands for the default, and any other one does not look at it
    unfold MovieSettings.defaultSortSpec
    by_cases hempty : settings.defaultSort = ""
    · rw [hempty]
      rfl
    · rw [compile_of_ne_empty hempty, compile_of_ne_empty hempty]

namespace MovieService

variable {repository : Repository} {settings : MovieSettings} {service : MovieService}

/-- A request is planned by the sort in force, and not by the way in which it is asked for. -/
theorem plan_of_compile_sort_eq {sort sort' : Option String}
    (h : SortSpec.compile sort service.defaultSort = SortSpec.compile sort' service.defaultSort)
    (params : ListParams) : service.plan { params with sort } =
      service.plan { params with sort := sort' } := by
  simp only [plan, h]

/-- Without a sort, a request that is refused has a fault in its filter or in its page. -/
theorem fault_of_sort_none (h : create repository settings = .ok service) {params : ListParams}
    {cause : QueryError} (hplan : service.plan { params with sort := none } = .error cause) :
    Filter.compile Movie.schema params.filter = .error cause ∨
      cause = .invalidPage ∨ cause = .invalidPageSize := by
  obtain ⟨hvalid, rfl⟩ := create_eq_ok_iff.1 h
  cases plan_eq_error_iff.1 hplan with
  | filter hfilter => exact .inl hfilter
  | @sort p before after key hfilter hsort hbefore hkey =>
    -- the fields of the default sort were checked when the service was made
    have hsplit : settings.defaultSortSpec = before ++ key :: after := hsort
    have hmem : key ∈ settings.defaultSortSpec := by simp [hsplit]
    rw [SortSpec.validate_eq_ok_iff.1 hvalid key hmem] at hkey
    cases hkey
  | page _ _ _ => exact .inr (.inl rfl)
  | pageSize _ _ _ _ => exact .inr (.inr rfl)

/-- Whatever settings are accepted, and whatever the storage answers and keeps, a listing is the
same without a sort, with an empty one and with the default sort written out. The default sort is
then in force, and never a fault of the request. -/
theorem list_default_sort (h : create repository settings = .ok service) (params : ListParams) :
    (∀ sort ∈ settings.defaultSorts,
      service.list { params with sort } = service.list { params with sort := none } ∧
      ∀ {m : Type → Type} [Monad m] (fetch : PageCall → m (Except String (Page Movie))),
        service.listWith fetch { params with sort } =
          service.listWith fetch { params with sort := none }) ∧
    (∀ call, service.plan { params with sort := none } = .ok call →
      call.sort = settings.defaultSortSpec) ∧
    ∀ cause, service.list { params with sort := none } = .error (.query cause) →
      Filter.compile Movie.schema params.filter = .error cause ∨
        cause = .invalidPage ∨ cause = .invalidPageSize := by
  have hservice := (create_eq_ok_iff.1 h).2
  refine ⟨fun sort hsort => ?_, fun call hplan => ?_, fun cause hlist => ?_⟩
  · have hcompile : SortSpec.compile sort service.defaultSort =
        SortSpec.compile none service.defaultSort := by
      rw [hservice]
      exact SortSpec.compile_default hsort
    have hplan := plan_of_compile_sort_eq hcompile params
    refine ⟨?_, fun fetch => ?_⟩
    · simp only [list, listWith, hplan]
    · simp only [listWith, hplan]
  · obtain ⟨-, hsort, -, -⟩ := (plan_eq_ok_iff _ _ _).1 hplan
    rw [← hsort, hservice]
    rfl
  · rcases list_error_cases hlist with ⟨cause', he, hplan⟩ | ⟨call, message, he, -, -⟩
    · cases he
      exact fault_of_sort_none h hplan
    · cases he

/-- Settings whose default sort has blank clauses and nothing else. -/
def blankSettings : MovieSettings := { defaultSort := " , " }

/-- With a default sort of blank clauses, the movies stand in the order in which they were stored,
also when the blank clauses are given again; and a field that movies do not have is a fault of the
filter. -/
theorem list_default_sort_sample :
    ∃ service, create (.ofStore Store.sample) blankSettings = .ok service ∧
      some " , " ∈ blankSettings.defaultSorts ∧
      service.list { sort := some " , " } = service.list {} ∧
      (service.list {}).map (fun page => page.items.map Movie.id) = .ok ["a", "b", "c"] ∧
      service.list { filter := some "rank:1" } = .error (.query (.invalidField "rank")) ∧
      Filter.compile Movie.schema (some "rank:1") = .error (.invalidField "rank") := by
  have hcreate : create (.ofStore Store.sample) blankSettings =
      .ok ⟨.ofStore Store.sample, 20, 100, []⟩ := rfl
  have hmem : some " , " ∈ blankSettings.defaultSorts := by decide
  have hrefused : list ⟨.ofStore Store.sample, 20, 100, []⟩ { filter := some "rank:1" } =
      .error (.query (.invalidField "rank")) := rfl
  obtain ⟨hsame, -, -⟩ := list_default_sort hcreate {}
  obtain ⟨-, -, hfault⟩ := list_default_sort hcreate { filter := some "rank:1" }
  refine ⟨_, hcreate, hmem, (hsame _ hmem).1, rfl, hrefused, ?_⟩
  rcases hfault _ hrefused with hfilter | hpage | hpage
  · exact hfilter
  · cases hpage
  · cases hpage

end MovieService

end Catalog
