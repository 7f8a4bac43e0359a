import Catalog.Movie.Store
import Catalog.Proofs.CollectionLinks
import Catalog.Proofs.PageArithmetic
import Catalog.Proofs.Sorting
import Mathlib.Algebra.Group.Nat.Defs

/-!
# Pages of a listing

A query of the store makes a listing, and each page is a slice of it. The slices are cut where a
saturating product says; the links between pages come from another product and a rounded quotient.
All of them agree: the pages partition the listing, and a link leads to every page that has items.

## Key results

- `Store.page_eq_slice`: a page is the slice that unbounded arithmetic cuts
- `Store.findPage?_partition`: the pages partition the listing, and the links lead through them
-/

namespace Catalog

/-! ## Slices of a list -/

section Slices

variable {α : Type}

/-- Slice `k` of a list, counted from zero. -/
def slice (size k : Nat) (xs : List α) : List α :=
  (xs.drop (k * size)).take size

theorem length_slice (size k : Nat) (xs : List α) :
    (slice size k xs).length = min size (xs.length - k * size) := by
  simp only [slice, List.length_take, List.length_drop]

/-- The first slices, one after the other, are the front of the list. -/
theorem flatMap_slice (size n : Nat) (xs : List α) :
    ((List.range n).flatMap fun k => slice size k xs) = xs.take (n * size) := by
  induction n with
  | zero => simp
  | succ n ih =>
    simp only [List.range_succ, List.flatMap_append, ih, List.flatMap_singleton]
    rw [Nat.succ_mul, List.take_add, slice]

theorem slice_eq_nil {size k : Nat} {xs : List α} (h : xs.length ≤ k * size) :
    slice size k xs = [] := by
  rw [slice, List.drop_eq_nil_of_le h, List.take_nil]

/-- Dropping as many as a bound allows drops as many as wanted, if the list is within the bound. -/
theorem drop_min_of_length_le {xs : List α} {bound : Nat} (h : xs.length ≤ bound) (n : Nat) :
    xs.drop (min n bound) = xs.drop n := by
  rcases Nat.le_total n bound with hle | hle
  · rw [Nat.min_eq_left hle]
  · rw [Nat.min_eq_right hle, List.drop_eq_nil_of_le h, List.drop_eq_nil_of_le (by omega)]

end Slices

/-! ## What pages and their links owe to a listing -/

/-- `pages` cut the listing `found` into pages of `size` items: up to the last page they are the
listing, and after it they are empty. Each page tells its number, its size and the length of the
listing. -/
structure Paginates (found : List Movie) (size last : UInt64) (pages : UInt64 → Page Movie) :
    Prop where
  /-- The pages up to the last one are the listing. -/
  concat : ((List.range last.toNat).flatMap fun i => (pages (UInt64.ofNat (i + 1))).items) = found
  /-- Pages before the last one are full. -/
  full : ∀ k, k ≠ 0 → k < last → (pages k).items.length = size.toNat
  /-- The last page is not empty and holds no more than a page may. -/
  ends : last ≠ 0 → (pages last).items ≠ [] ∧ (pages last).items.length ≤ size.toNat
  /-- Pages after the last one are empty. -/
  past : ∀ k, last < k → (pages k).items = []
  /-- Each page tells where it stands. -/
  position : ∀ k, k ≠ 0 → (pages k).descriptor.page = k ∧ (pages k).descriptor.pageSize = size ∧
    (pages k).descriptor.totalCount.toNat = found.length

/-- `links` lead from page `k` to its neighbours and to the last page, on the address `base`. -/
structure Navigates (base : String) (size last k : UInt64) (links : LinkSet) : Prop where
  /-- Before the last page, `next` leads to the page after. -/
  next : k < last → ∃ n : UInt64, n.toNat = k.toNat + 1 ∧
    links.get? "next" = some (PageLink.ofPage base n size)
  /-- From the last page on there is no `next`. -/
  noNext : ¬ k < last → links.get? "next" = none
  /-- After the first page, `prev` leads to the page before. -/
  prev : 1 < k → ∃ n : UInt64, n.toNat + 1 = k.toNat ∧
    links.get? "prev" = some (PageLink.ofPage base n size)
  /-- The first page has no `prev`. -/
  noPrev : ¬ 1 < k → links.get? "prev" = none
  /-- `last` leads to the last page. -/
  last : links.get? "last" = some (PageLink.ofPage base last size)

/-- The links of a page lead where they should, whatever the page. -/
theorem navigates_ofCollection {size : UInt64} (hs : size ≠ 0) (k total : UInt64) (url : String) :
    Navigates (Links.stripQuery url) size (lastPageNumber size total) k
      (Links.ofCollection ⟨k, size, total⟩ url .empty) where
  next h := ⟨k + 1, PageLink.toNat_add_one_of_lt h, by
    simp [Links.get?_ofCollection, PageLink.next?, PageLink.nextNumber?_eq hs, h]⟩
  noNext h := by simp [Links.get?_ofCollection, PageLink.next?, PageLink.nextNumber?_eq hs, h]
  prev h := ⟨k - 1, by
      rw [PageLink.toNat_sub_one_of_one_lt h]
      rw [UInt64.lt_iff_toNat_lt, UInt64.toNat_one] at h
      omega, by
    simp [Links.get?_ofCollection, PageLink.previous?, PageLink.previousNumber?_eq, h]⟩
  noPrev h := by
    simp [Links.get?_ofCollection, PageLink.previous?, PageLink.previousNumber?_eq, h]
  last := by simp [Links.get?_ofCollection, PageLink.last]

namespace Store

/-! ## Pages of the store -/

/-- The listing of a query holds the stored movies that the filter holds of, each as often as it
is stored. -/
theorem perm_matching (s : Store) (filter : CompiledFilter) (sort : SortSpec) :
    (s.matching filter sort).Perm (s.filter fun e => filter.holds e.document) :=
  perm_stableSort _ _

theorem length_matching_le (s : Store) (filter : CompiledFilter) (sort : SortSpec) :
    (s.matching filter sort).length ≤ s.length := by
  rw [(s.perm_matching filter sort).length_eq]
  exact List.length_filter_le _ _

/-- A page of a query, as `findPage?` cuts it. -/
def page (s : Store) (filter : CompiledFilter) (sort : SortSpec) (r : PageRequest) :
    Page Movie where
  items := (((s.matching filter sort).drop r.skip.toNat).take r.limit.toNat).map (·.movie)
  descriptor := r.describe (UInt64.ofNat (s.matching filter sort).length)

theorem findPage?_eq {p : Predicate} {filter : CompiledFilter} (hp : p.compile? = some filter)
    (s : Store) (sort : SortSpec) (r : PageRequest) :
    s.findPage? p sort r = some (s.page filter sort r) := by
  rw [findPage?, hp]
  rfl

/-- A page holds the slice of the listing that unbounded arithmetic cuts: where the product of the
offset saturates, the listing has ended. -/
theorem page_eq_slice {s : Store} (hs : s.length < 2 ^ 64) (filter : CompiledFilter)
    (sort : SortSpec) (k size : UInt64) :
    (s.page filter sort ⟨k, size⟩).items =
      slice size.toNat (k.toNat - 1) ((s.matching filter sort).map (·.movie)) := by
  have hlen : (s.matching filter sort).length ≤ maxUInt64 := by
    have := s.length_matching_le filter sort
    simp only [maxUInt64]
    omega
  rw [page, slice, toNat_skip, drop_min_of_length_le hlen, List.map_take, List.map_drop]
  rfl

/-- The number of matches is told exactly. -/
theorem toNat_length_matching {s : Store} (hs : s.length < 2 ^ 64) (filter : CompiledFilter)
    (sort : SortSpec) :
    (UInt64.ofNat (s.matching filter sort).length).toNat = (s.matching filter sort).length := by
  have := s.length_matching_le filter sort
  rw [UInt64.toNat_ofNat']
  exact Nat.mod_eq_of_lt (by omega)

/-- The pages of a query paginate its listing. -/
theorem paginates_page {s : Store} (hs : s.length < 2 ^ 64) (filter : CompiledFilter)
    (sort : SortSpec) {size : UInt64} (hsize : size ≠ 0) :
    Paginates ((s.matching filter sort).map (·.movie)) size
      (lastPageNumber size (UInt64.ofNat (s.matching filter sort).length))
      (fun k => s.page filter sort ⟨k, size⟩) := by
  have hlt := lt_lastPageNumber_iff hsize (UInt64.ofNat (s.matching filter sort).length)
  have hle := total_le_lastPageNumber_mul hsize (UInt64.ofNat (s.matching filter sort).length)
  rw [toNat_length_matching hs] at hle
  simp only [toNat_length_matching hs] at hlt
  have hlast := (lastPageNumber size (UInt64.ofNat (s.matching filter sort).length)).toNat_lt
  generalize hT : lastPageNumber size (UInt64.ofNat (s.matching filter sort).length) = last at *
  constructor
  case concat =>
    have hpages : ∀ i ∈ List.range last.toNat,
        (s.page filter sort ⟨UInt64.ofNat (i + 1), size⟩).items =
          slice size.toNat i ((s.matching filter sort).map (·.movie)) := by
      intro i hi
      have hi := List.mem_range.1 hi
      have hn : (UInt64.ofNat (i + 1)).toNat = i + 1 := by
        rw [UInt64.toNat_ofNat']
        exact Nat.mod_eq_of_lt (by omega)
      rw [page_eq_slice hs, hn, Nat.add_sub_cancel]
    -- all slices together reach the end of the listing
    rw [List.flatMap_def, List.map_congr_left hpages, ← List.flatMap_def, flatMap_slice]
    exact List.take_of_length_le (by rw [List.length_map]; exact hle)
  case full =>
    intro k hk hkT
    have hk := toNat_pos_of_ne_zero hk
    rw [UInt64.lt_iff_toNat_lt] at hkT
    -- a page before the last one ends before the listing does
    have hend := (hlt k.toNat).1 hkT
    rw [page_eq_slice hs, length_slice, List.length_map]
    have : k.toNat * size.toNat = (k.toNat - 1) * size.toNat + size.toNat := by
      rw [← Nat.succ_mul, Nat.succ_eq_add_one, Nat.sub_add_cancel hk]
    omega
  case ends =>
    intro hT0
    have hpos := toNat_pos_of_ne_zero hT0
    -- the page before the last one does not reach the end of the listing
    have hbefore := (hlt (last.toNat - 1)).1 (by omega)
    have hlength :=
      length_slice size.toNat (last.toNat - 1) ((s.matching filter sort).map (·.movie))
    rw [List.length_map] at hlength
    rw [page_eq_slice hs]
    refine ⟨fun hnil => ?_, by omega⟩
    rw [hnil, List.length_nil] at hlength
    have := toNat_pos_of_ne_zero hsize
    omega
  case past =>
    intro k hk
    rw [UInt64.lt_iff_toNat_lt] at hk
    -- the slice starts where the last page ends, or later
    have hend : last.toNat * size.toNat ≤ (k.toNat - 1) * size.toNat :=
      Nat.mul_le_mul_right _ (by omega)
    rw [page_eq_slice hs]
    exact slice_eq_nil (by rw [List.length_map]; omega)
  case position =>
    intro k _
    exact ⟨rfl, rfl, by rw [List.length_map]; exact toNat_length_matching hs filter sort⟩

/-- The listing of a query holds exactly the stored movies that match. Its pages partition it, each
tells its length, and the links of every page lead to the pages that have items. A store in memory
has fewer movies than there are addresses of 64 bits. -/
theorem findPage?_partition (s : Store) (hs : s.length < 2 ^ 64) (p : Predicate)
    (filter : CompiledFilter) (hp : p.compile? = some filter) (sort : SortSpec) (size : UInt64)
    (hsize : size ≠ 0) (url : String) :
    (s.matching filter sort).Perm (s.filter fun e => filter.holds e.document) ∧
    ∃ pages : UInt64 → Page Movie,
      (∀ k, k ≠ 0 → s.findPage? p sort ⟨k, size⟩ = some (pages k)) ∧
      Paginates ((s.matching filter sort).map (·.movie)) size
        (lastPageNumber size (UInt64.ofNat (s.matching filter sort).length)) pages ∧
      ∀ k, k ≠ 0 → Navigates (Links.stripQuery url) size
        (lastPageNumber size (UInt64.ofNat (s.matching filter sort).length)) k
        (Links.ofCollection (pages k).descriptor url .empty) :=
  ⟨s.perm_matching filter sort, fun k => s.page filter sort ⟨k, size⟩,
    fun k _ => findPage?_eq hp s sort ⟨k, size⟩, paginates_page hs filter sort hsize,
    fun k _ => navigates_ofCollection hsize k _ url⟩

/-- A movie of which only identifier, title and year matter. -/
def sampleMovie (id title : String) (year : Int64) : Movie where
  id := id
  title := title
  plot := ""
  year := year
  runtime := 0
  rating := .zero
  released := .ofSeconds 0
  genres := []
  cast := []
  directors := []
  languages := []
  awards := {}

/-- Three movies, of which the first and the last came out in one year. -/
def sample : Store :=
  ofMovies [sampleMovie "a" "Alien" 1979, sampleMovie "b" "Aliens" 1986,
    sampleMovie "c" "Stalker" 1979]

/-- The condition that a movie came out in 1979. -/
def sampleQuery : Predicate :=
  SortedMap.ofList [("year", .single (.equals (.integer 1979)))]

/-- The condition, compiled. -/
def sampleFilter : CompiledFilter :=
  [("year", .single (.equals (.integer 1979)))]

/-- The two movies of 1979 on pages of one movie each. -/
theorem findPage?_partition_sample :
    sample.length < 2 ^ 64 ∧ sampleQuery.compile? = some sampleFilter ∧ (1 : UInt64) ≠ 0 ∧
    (sample.matching sampleFilter []).Perm
      (sample.filter fun e => sampleFilter.holds e.document) ∧
    ∃ pages : UInt64 → Page Movie,
      (∀ k, k ≠ 0 → sample.findPage? sampleQuery [] ⟨k, 1⟩ = some (pages k)) ∧
      Paginates ((sample.matching sampleFilter []).map (·.movie)) 1
        (lastPageNumber 1 (UInt64.ofNat (sample.matching sampleFilter []).length)) pages ∧
      ∀ k, k ≠ 0 → Navigates (Links.stripQuery "/movies?pageSize=1") 1
        (lastPageNumber 1 (UInt64.ofNat (sample.matching sampleFilter []).length)) k
        (Links.ofCollection (pages k).descriptor "/movies?pageSize=1" .empty) :=
  ⟨by decide, rfl, by decide,
    findPage?_partition sample (by decide) sampleQuery sampleFilter rfl [] 1 (by decide)
      "/movies?pageSize=1"⟩

end Store

end Catalog
