import Catalog.Proofs.ConfiguredLinks
import Catalog.Proofs.PageAddress

/-!
# Pages that links lead to

The numbers that a page link carries are read back from its address, and the check of page
parameters takes them under the same bounds: the size of the page is already within them, and all
page numbers but zero are taken. Only the last page of a listing without items has the number zero.

## Key results

- `PageRequest.resolve_again`: an accepted size is accepted again
- `Links.exists_number`: the number that each link carries
- `PageRequest.resolve_linked`: every page that a page links is accepted, with the same size
-/

namespace Catalog

/-! ## Accepted sizes -/

namespace PageRequest

variable {page pageSize : Option UInt64} {defaultSize maxSize : UInt64} {r : PageRequest}

/-- The greatest size of a page has room for an item. -/
theorem one_le_maxSize (maxSize : UInt64) : 1 ≤ max maxSize 1 := by
  show 1 ≤ if maxSize ≤ 1 then 1 else maxSize
  split
  · exact UInt64.le_refl 1
  · next h => exact UInt64.le_of_lt (UInt64.not_le.1 h)

/-- An accepted page has room for an item, and for no more than the maximum. -/
theorem pageSize_bounds (h : resolve page pageSize defaultSize maxSize = .ok r) :
    r.pageSize ≠ 0 ∧ r.pageSize ≤ max maxSize 1 := by
  simp only [resolve] at h
  split at h
  · cases h
  split at h
  · cases h
  · next hsize =>
    cases h
    refine ⟨fun hzero => ?_, Std.min_le_right⟩
    -- neither of the two sizes is zero, so neither is the lesser of them
    have hmax := one_le_maxSize maxSize
    rcases Std.min_eq_or (a := pageSize.getD defaultSize) (b := max maxSize 1) with hmin | hmin
    · exact hsize (hmin.symm.trans hzero)
    · rw [hmin.symm.trans hzero] at hmax
      exact absurd hmax (by decide)

/-- The size of an accepted page is accepted with every page number but zero. -/
theorem resolve_again (h : resolve page pageSize defaultSize maxSize = .ok r) (n : UInt64) :
    resolve (some n) (some r.pageSize) defaultSize maxSize =
      if n = 0 then .error .invalidPage else .ok ⟨n, r.pageSize⟩ := by
  obtain ⟨hsize, hle⟩ := pageSize_bounds h
  have hmin : min r.pageSize (max maxSize 1) = r.pageSize := if_pos hle
  simp only [resolve, Option.getD_some, if_neg hsize, hmin]

end PageRequest

/-! ## Numbers in links -/

namespace Links

/-- The relations that lead to pages. -/
def pageRelations : List String := ["first", "last", "prev", "next"]

/-- A link to a page carries a number and the size of the page it stands on. The number is zero
only for the last page of a listing without items. -/
theorem exists_number {d : PageDescriptor} {fullUrl relation href : String}
    (hsize : d.pageSize ≠ 0) (hrelation : relation ∈ pageRelations)
    (h : (ofCollection d fullUrl .empty).get? relation = some href) :
    ∃ n, href = PageLink.ofPage (stripQuery fullUrl) n d.pageSize ∧
      (n = 0 ↔ relation = "last" ∧ d.totalCount = 0) := by
  simp only [pageRelations, List.mem_cons, List.not_mem_nil, or_false] at hrelation
  rcases hrelation with rfl | rfl | rfl | rfl
  · -- the first page
    rw [get?_ofCollection] at h
    refine ⟨1, ?_, by simp⟩
    simpa [PageLink.first] using h.symm
  · -- the last page has the number zero if no page comes before it
    rw [get?_ofCollection] at h
    refine ⟨lastPageNumber d.pageSize d.totalCount, by simpa [PageLink.last] using h.symm, ?_⟩
    have hpos := lt_lastPageNumber_iff hsize d.totalCount 0
    rw [← UInt64.toNat_inj, ← UInt64.toNat_inj, UInt64.toNat_zero]
    simp only [true_and]
    omega
  · -- the page before the first is not linked
    rw [get?_prev] at h
    split at h
    · next hpage =>
      refine ⟨d.page - 1, (Option.some.inj h).symm, ?_⟩
      have hsub := PageLink.toNat_sub_one_of_one_lt (UInt64.lt_iff_toNat_lt.2 hpage)
      rw [← UInt64.toNat_inj, hsub, UInt64.toNat_zero]
      simp
      omega
    · cases h
  · -- the next number does not wrap around to zero
    rw [get?_next] at h
    split at h
    · next hnext =>
      refine ⟨d.page + 1, (Option.some.inj h).symm, ?_⟩
      have hgrows := hnext.2
      have hadd : (d.page + 1).toNat = d.page.toNat + 1 := by
        rw [UInt64.toNat_add, UInt64.toNat_one]
        exact Nat.mod_eq_of_lt (by simp only [maxUInt64] at hgrows; omega)
      rw [← UInt64.toNat_inj, hadd, UInt64.toNat_zero]
      simp
    · cases h

end Links

/-! ## Linked pages -/

/-- Whatever page is asked for and accepted, the pages that it links are accepted under the same
bounds and have the same size, but for the last page of a listing without items: it has the number
zero, which is refused. -/
theorem PageRequest.resolve_linked {page pageSize : Option UInt64} {defaultSize maxSize : UInt64}
    {r : PageRequest} (h : resolve page pageSize defaultSize maxSize = .ok r) (total : UInt64)
    (fullUrl : String) (extra : Links.Templates) :
    (∀ relation ∈ ["first", "last"],
      ((Links.ofCollection (r.describe total) fullUrl .empty).get? relation).isSome) ∧
    ∀ relation ∈ Links.pageRelations, ∀ href,
      (Links.ofCollection (r.describe total) fullUrl .empty).get? relation = some href →
      (Links.ofCollection (r.describe total) fullUrl extra).get? relation = some href ∧
      ∃ n, href.toList = (Links.stripQuery fullUrl).toList ++ '?' :: PageLink.queryOf n r.pageSize ∧
        ListParams.ofQuery (PageLink.queryOf n r.pageSize) =
          .ok { page := some n, pageSize := some r.pageSize } ∧
        resolve (some n) (some r.pageSize) defaultSize maxSize =
          if relation = "last" ∧ total = 0 then .error .invalidPage else .ok ⟨n, r.pageSize⟩ := by
  refine ⟨fun relation hrelation => ?_, fun relation hrelation href hhref => ⟨?_, ?_⟩⟩
  · rw [Links.get?_ofCollection]
    simp only [List.mem_cons, List.not_mem_nil, or_false] at hrelation
    rcases hrelation with rfl | rfl <;> rfl
  · rw [Links.get?_ofCollection_configured, hhref, Option.some_or]
  · obtain ⟨n, rfl, hzero⟩ := Links.exists_number (pageSize_bounds h).1 hrelation hhref
    refine ⟨n, PageLink.toList_ofPage _ _ _, ListParams.ofQuery_queryOf n r.pageSize, ?_⟩
    have htotal : (r.describe total).totalCount = total := rfl
    simp only [resolve_again h, hzero, htotal]

/-- The third of four pages, asked for with more items than a page may have. -/
theorem PageRequest.resolve_linked_sample :
    resolve (some 3) (some 1000) 20 100 = .ok ⟨3, 100⟩ ∧
    ∃ n, "/movies?page=4&pageSize=100".toList = "/movies".toList ++ '?' :: PageLink.queryOf n 100 ∧
      resolve (some n) (some 100) 20 100 = .ok ⟨n, 100⟩ := by
  have haccepted : resolve (some 3) (some 1000) 20 100 = .ok ⟨3, 100⟩ := rfl
  obtain ⟨-, hlinks⟩ := resolve_linked haccepted 400 "/movies?page=3&pageSize=1000" .empty
  obtain ⟨-, n, htext, -, hresolve⟩ := hlinks "last" (by decide) "/movies?page=4&pageSize=100" rfl
  exact ⟨haccepted, n, htext, hresolve⟩

/-- When nothing matched, the last page has the number zero, and asking for it is refused. -/
theorem PageRequest.exists_link_refused :
    resolve none none 20 100 = .ok ⟨1, 20⟩ ∧
    (Links.ofCollection (describe ⟨1, 20⟩ 0) "/movies" .empty).get? "last" =
      some (PageLink.ofPage "/movies" 0 20) ∧
    resolve (some 0) (some 20) 20 100 = .error .invalidPage :=
  ⟨rfl, rfl, rfl⟩

end Catalog
