import Catalog.Links.Page

/-!
# Page arithmetic

Page numbers, sizes and counts have 64 bits, and products of them saturate. Read as natural numbers
they obey the unbounded laws: a page has items exactly if its number is not above that of the last
page, and the page links ask the same question in another way.

## Key results

- `lt_lastPageNumber_iff`: the pages below the last one are those that end before the listing does
- `toNat_skip`: the number of items before a page, up to saturation
- `nextNumber?_eq`, `previousNumber?_eq`: when a page has neighbours
-/

namespace Catalog

theorem toNat_le_maxUInt64 (n : UInt64) : n.toNat ≤ maxUInt64 := by
  have := n.toNat_lt
  simp only [maxUInt64]
  omega

theorem toNat_pos_of_ne_zero {n : UInt64} (h : n ≠ 0) : 0 < n.toNat := by
  rcases Nat.eq_zero_or_pos n.toNat with hz | hp
  · exact absurd (UInt64.toNat_inj.1 (by rw [hz]; rfl)) h
  · exact hp

/-! ## The last page -/

/-- The number of pages that `total` items fill does not exceed their number. -/
private theorem ceil_le (size total : Nat) : (total + (size - 1)) / size ≤ total := by
  rcases Nat.eq_zero_or_pos size with rfl | hs
  · simp
  · rcases Nat.eq_zero_or_pos total with rfl | ht
    · exact Nat.le_of_eq (by rw [Nat.zero_add, Nat.div_eq_of_lt (by omega)])
    · refine (Nat.div_le_iff_le_mul_add_pred hs).2 ?_
      have : total ≤ size * total := Nat.le_mul_of_pos_left total hs
      omega

/-- The number of the last page does not wrap. -/
theorem toNat_lastPageNumber (size total : UInt64) :
    (lastPageNumber size total).toNat = (total.toNat + (size.toNat - 1)) / size.toNat := by
  have hle := ceil_le size.toNat total.toNat
  have hlt := total.toNat_lt
  rw [lastPageNumber, UInt64.toNat_ofNat']
  exact Nat.mod_eq_of_lt (by omega)

/-- The pages below the last one are those whose end lies before the end of the listing. -/
theorem lt_lastPageNumber_iff {size : UInt64} (hs : size ≠ 0) (total : UInt64) (k : Nat) :
    k < (lastPageNumber size total).toNat ↔ k * size.toNat < total.toNat := by
  have hpos := toNat_pos_of_ne_zero hs
  rw [toNat_lastPageNumber, Nat.lt_iff_add_one_le, Nat.le_div_iff_mul_le hpos, Nat.add_mul,
    Nat.one_mul]
  omega

/-- All pages together hold the whole listing. -/
theorem total_le_lastPageNumber_mul {size : UInt64} (hs : size ≠ 0) (total : UInt64) :
    total.toNat ≤ (lastPageNumber size total).toNat * size.toNat := by
  have h := lt_lastPageNumber_iff hs total (lastPageNumber size total).toNat
  omega

/-! ## Items before a page -/

/-- The number of items before a page is the exact product, or the greatest number of 64 bits. -/
theorem toNat_skip (r : PageRequest) :
    r.skip.toNat = min ((r.page.toNat - 1) * r.pageSize.toNat) maxUInt64 := by
  rw [PageRequest.skip, UInt64.toNat_ofNat']
  refine Nat.mod_eq_of_lt ?_
  simp only [maxUInt64]
  omega

/-! ## Neighbours -/

namespace PageLink

/-- A page has a next one exactly if it comes before the last page. The product of the link
saturates only where it is above every total, and a page below another one can be counted on. -/
theorem nextNumber?_eq {size : UInt64} (hs : size ≠ 0) (page total : UInt64) :
    nextNumber? page size total =
      if page < lastPageNumber size total then some (page + 1) else none := by
  have htotal := toNat_le_maxUInt64 total
  have hiff := lt_lastPageNumber_iff hs total page.toNat
  rw [← UInt64.lt_iff_toNat_lt] at hiff
  -- a saturated product is above every total, so saturation does not change the test
  simp only [nextNumber?]
  by_cases hend : total.toNat ≤ page.toNat * size.toNat
  · rw [if_pos (by omega), if_neg (by rw [hiff]; omega)]
  · have hlt : page < lastPageNumber size total := hiff.2 (by omega)
    -- a page below another one is not the greatest number of 64 bits
    have hmax : page.toNat ≠ maxUInt64 := by
      have := toNat_le_maxUInt64 (lastPageNumber size total)
      rw [UInt64.lt_iff_toNat_lt] at hlt
      omega
    rw [if_neg (by omega), if_neg hmax, if_pos hlt]

/-- The number after that of a page with a successor does not wrap. -/
theorem toNat_add_one_of_lt {page last : UInt64} (h : page < last) :
    (page + 1).toNat = page.toNat + 1 := by
  have hlast := last.toNat_lt
  rw [UInt64.lt_iff_toNat_lt] at h
  rw [UInt64.toNat_add, UInt64.toNat_one]
  exact Nat.mod_eq_of_lt (by omega)

/-- Every page but the first has a previous one. -/
theorem previousNumber?_eq (page : UInt64) :
    previousNumber? page = if 1 < page then some (page - 1) else none := by
  simp only [previousNumber?]
  by_cases h : page ≤ 1
  · rw [if_pos h, if_neg (UInt64.not_lt.2 h)]
  · rw [if_neg h, if_pos (UInt64.not_le.1 h)]

/-- The number before that of a later page does not wrap. -/
theorem toNat_sub_one_of_one_lt {page : UInt64} (h : 1 < page) :
    (page - 1).toNat = page.toNat - 1 := by
  rw [UInt64.lt_iff_toNat_lt, UInt64.toNat_one] at h
  rw [UInt64.toNat_sub_of_le _ _ (by rw [UInt64.le_iff_toNat_le, UInt64.toNat_one]; omega),
    UInt64.toNat_one]

end PageLink

end Catalog
