import Catalog.Proofs.StorageCalls
import Mathlib.Algebra.Group.Nat.Defs

/-!
# Pages in words

Page numbers, sizes and counts are words of 64 bits. Sums, differences, products and rounded
quotients of words may have no word as their result; here each step of the page arithmetic is one
that has, and all steps together give the same numbers as exact arithmetic.

## Key results

- `Word.sub?_eq_some_iff`, `Word.add?_eq_some_iff`, `Word.ceilDiv?_eq_some_iff`: when a step has a
  result
- `PageRequest.settled_of_resolve`: the page that parameters are settled to
- `PageLink.exact`: the numbers in the links of a page
- `PageRequest.resolve_exact`: both, and when parameters are refused
-/

namespace Catalog

/-! ## Steps in words -/

namespace Word

/-- A difference, if it is not below zero. -/
def sub? (a b : UInt64) : Option UInt64 :=
  if b ≤ a then some (a - b) else none

/-- A sum, if it is a word. -/
def add? (a b : UInt64) : Option UInt64 :=
  if a.toNat + b.toNat ≤ maxUInt64 then some (a + b) else none

/-- A product, or the greatest word if the product is none. -/
def mulCapped (a b : UInt64) : UInt64 :=
  if a.toNat * b.toNat ≤ maxUInt64 then a * b else UInt64.ofNat maxUInt64

/-- A quotient rounded up, if the divisor is not zero. What remains adds one to the quotient. -/
def ceilDiv? (a b : UInt64) : Option UInt64 :=
  if b = 0 then none else if a % b = 0 then some (a / b) else add? (a / b) 1

variable {a b c : UInt64}

/-- There is a difference when it is exact. -/
theorem sub?_eq_some_iff : sub? a b = some c ↔ a.toNat = c.toNat + b.toNat := by
  rw [sub?]
  split
  · next h =>
    rw [Option.some_inj, ← UInt64.toNat_inj, UInt64.toNat_sub_of_le a b h]
    have hle := UInt64.le_iff_toNat_le.1 h
    omega
  · next h =>
    rw [UInt64.le_iff_toNat_le] at h
    simp only [reduceCtorEq, false_iff]
    omega

theorem sub?_one (h : 1 ≤ a) : sub? a 1 = some (a - 1) := by
  have hle := UInt64.le_iff_toNat_le.1 h
  rw [sub?_eq_some_iff, UInt64.toNat_sub_of_le _ _ h]
  omega

/-- There is a sum when it is exact. -/
theorem add?_eq_some_iff : add? a b = some c ↔ c.toNat = a.toNat + b.toNat := by
  have hc := toNat_le_maxUInt64 c
  rw [add?]
  split
  · next h =>
    have hlt : a.toNat + b.toNat < 2 ^ 64 := by simp only [maxUInt64] at h; omega
    rw [Option.some_inj, ← UInt64.toNat_inj, UInt64.toNat_add, Nat.mod_eq_of_lt hlt, eq_comm]
  · next h =>
    simp only [reduceCtorEq, false_iff]
    omega

theorem toNat_mulCapped (a b : UInt64) :
    (mulCapped a b).toNat = min (a.toNat * b.toNat) maxUInt64 := by
  rw [mulCapped]
  split
  · next h =>
    have hlt : a.toNat * b.toNat < 2 ^ 64 := by simp only [maxUInt64] at h; omega
    rw [UInt64.toNat_mul, Nat.mod_eq_of_lt hlt, Nat.min_eq_left h]
  · next h =>
    rw [UInt64.toNat_ofNat', Nat.min_eq_right (by omega)]
    rfl

/-- A quotient of words is rounded up to a word. -/
theorem ceilDiv?_eq_some_iff : ceilDiv? a b = some c ↔
    b ≠ 0 ∧ c.toNat = (a.toNat + (b.toNat - 1)) / b.toNat := by
  rw [ceilDiv?]
  split
  · next hb => simp [hb]
  · next hb =>
    have hpos := toNat_pos_of_ne_zero hb
    have hrem := Nat.mod_lt a.toNat hpos
    have hsplit := Nat.div_add_mod a.toNat b.toNat
    -- rounding up takes what remains to a whole divisor
    have hround : (a.toNat + (b.toNat - 1)) / b.toNat =
        a.toNat / b.toNat + (a.toNat % b.toNat + (b.toNat - 1)) / b.toNat := by
      conv => lhs; rw [← hsplit, Nat.add_assoc, Nat.mul_add_div hpos]
    rw [hround, and_iff_right hb]
    split
    · next hzero =>
      rw [← UInt64.toNat_inj, UInt64.toNat_mod, UInt64.toNat_zero] at hzero
      have hnone : (a.toNat % b.toNat + (b.toNat - 1)) / b.toNat = 0 :=
        Nat.div_eq_of_lt (by omega)
      rw [Option.some_inj, ← UInt64.toNat_inj, UInt64.toNat_div, hnone, Nat.add_zero, eq_comm]
    · next hzero =>
      rw [← UInt64.toNat_inj, UInt64.toNat_mod, UInt64.toNat_zero] at hzero
      have hone : (a.toNat % b.toNat + (b.toNat - 1)) / b.toNat = 1 :=
        Nat.div_eq_of_lt_le (by omega) (by omega)
      rw [add?_eq_some_iff, UInt64.toNat_div, UInt64.toNat_one, hone]

end Word

/-! ## Page parameters -/

namespace PageRequest

/-- The number of items before a page, step by step in words. -/
def skipInWords? (r : PageRequest) : Option UInt64 :=
  (Word.sub? r.page 1).map fun before => Word.mulCapped before r.pageSize

/-- The steps have results from the first page on. -/
theorem skipInWords?_eq {r : PageRequest} (h : r.page ≠ 0) : r.skipInWords? = some r.skip := by
  have hpos := toNat_pos_of_ne_zero h
  have hle : (1 : UInt64) ≤ r.page := UInt64.le_iff_toNat_le.2 hpos
  have hbefore : (r.page - 1).toNat = r.page.toNat - 1 := UInt64.toNat_sub_of_le _ _ hle
  rw [skipInWords?, Word.sub?_one hle, Option.map_some, Option.some_inj, ← UInt64.toNat_inj,
    Word.toNat_mulCapped, toNat_skip, hbefore]

/-- The page that parameters are settled to: number and size are those asked for or those that hold
by default, none of them is zero, and the size is at most the maximum. Settled parameters stay as
they are when they are settled again. -/
structure Settled (page pageSize : Option UInt64) (defaultSize maxSize : UInt64)
    (r : PageRequest) : Prop where
  page : r.page = page.getD 1
  one_le_page : 1 ≤ r.page.toNat
  pageSize : r.pageSize = min (pageSize.getD defaultSize) (max maxSize 1)
  one_le_pageSize : 1 ≤ r.pageSize.toNat
  again : ∀ anySize, resolve (some r.page) (some r.pageSize) anySize maxSize = .ok r
  skip : r.skip.toNat = min ((r.page.toNat - 1) * r.pageSize.toNat) (2 ^ 64 - 1)
  skip_words : r.skipInWords? = some r.skip

variable {page pageSize : Option UInt64} {defaultSize maxSize : UInt64} {r : PageRequest}

theorem settled_of_resolve (h : resolve page pageSize defaultSize maxSize = .ok r) :
    Settled page pageSize defaultSize maxSize r := by
  obtain ⟨hpage, -, hr⟩ := resolve_eq_ok_iff.1 h
  obtain ⟨hsize, hle⟩ := pageSize_bounds h
  have hnumber : r.page ≠ 0 := by
    rw [hr]
    cases page with
    | none => exact show (1 : UInt64) ≠ 0 by decide
    | some n => exact fun hzero => hpage (congrArg some hzero)
  constructor
  case page => rw [hr]
  case one_le_page => exact toNat_pos_of_ne_zero hnumber
  case pageSize => rw [hr]
  case one_le_pageSize => exact toNat_pos_of_ne_zero hsize
  case again =>
    intro anySize
    have hmin : min r.pageSize (max maxSize 1) = r.pageSize := if_pos hle
    refine resolve_eq_ok_iff.2 ⟨fun hzero => hnumber (Option.some.inj hzero), hsize, ?_⟩
    simp only [Option.getD_some, hmin]
  case skip => exact toNat_skip r
  case skip_words => exact skipInWords?_eq hnumber

end PageRequest

/-! ## Page links -/

/-- The number of the last page, step by step in words. -/
def lastPageInWords? (size total : UInt64) : Option UInt64 :=
  if size = 0 then some 0 else Word.ceilDiv? total size

theorem lastPageInWords?_eq (size total : UInt64) :
    lastPageInWords? size total = some (lastPageNumber size total) := by
  rw [lastPageInWords?]
  split
  · next h =>
    subst h
    rw [Option.some_inj, ← UInt64.toNat_inj, toNat_lastPageNumber, UInt64.toNat_zero, Nat.div_zero]
  · next h => exact Word.ceilDiv?_eq_some_iff.2 ⟨h, toNat_lastPageNumber size total⟩

namespace PageLink

/-- The number of the page before, step by step in words: none at all if a step has no result, and
no number if there is no page. -/
def previousInWords? (page : UInt64) : Option (Option UInt64) :=
  if page ≤ 1 then some none else (Word.sub? page 1).map some

/-- The number of the page after, step by step in words. A number that cannot grow has no page
after it. -/
def nextInWords? (page size total : UInt64) : Option UInt64 :=
  if total ≤ Word.mulCapped page size then none else Word.add? page 1

theorem previousInWords?_eq (page : UInt64) :
    previousInWords? page = some (previousNumber? page) := by
  rw [previousInWords?, previousNumber?]
  split
  · rfl
  · next h =>
    have hle : (1 : UInt64) ≤ page := UInt64.le_of_lt (UInt64.not_le.1 h)
    rw [Word.sub?_one hle]
    rfl

theorem nextInWords?_eq (page size total : UInt64) :
    nextInWords? page size total = nextNumber? page size total := by
  have hpage := toNat_le_maxUInt64 page
  simp only [nextInWords?, nextNumber?, UInt64.le_iff_toNat_le, Word.toNat_mulCapped, Word.add?,
    UInt64.toNat_one]
  split
  · rfl
  · by_cases hmax : page.toNat = maxUInt64
    · rw [if_neg (by omega), if_pos hmax]
    · rw [if_pos (by omega), if_neg hmax]

/-- The numbers in the links of a page of `total` items: the last page ends with the last item, and
its neighbours are linked when items come after it or pages before it. -/
structure Exact (page size total : UInt64) : Prop where
  last : size ≠ 0 → total ≠ 0 →
    ((lastPageNumber size total).toNat - 1) * size.toNat < total.toNat ∧
      total.toNat ≤ (lastPageNumber size total).toNat * size.toNat
  last_zero : size = 0 ∨ total = 0 → lastPageNumber size total = 0
  next : ∀ base, next? base page size total =
    if page.toNat * size.toNat < total.toNat ∧ page.toNat < 2 ^ 64 - 1 then
      some (base ++ "?page=" ++ toString (page.toNat + 1) ++ "&pageSize=" ++ toString size.toNat)
    else none
  previous : ∀ base, previous? base page size =
    if 1 < page.toNat then
      some (base ++ "?page=" ++ toString (page.toNat - 1) ++ "&pageSize=" ++ toString size.toNat)
    else none
  last_words : lastPageInWords? size total = some (lastPageNumber size total)
  next_words : nextInWords? page size total = nextNumber? page size total
  previous_words : previousInWords? page = some (previousNumber? page)

theorem lastPageNumber_eq_zero {size total : UInt64} (h : size = 0 ∨ total = 0) :
    lastPageNumber size total = 0 := by
  rw [← UInt64.toNat_inj, toNat_lastPageNumber, UInt64.toNat_zero]
  rcases h with rfl | rfl
  · exact Nat.div_zero _
  · rw [UInt64.toNat_zero, Nat.zero_add, Nat.div_eq_zero_iff]
    omega

theorem exact (page size total : UInt64) : Exact page size total := by
  constructor
  case last =>
    intro hsize htotal
    have hpos := toNat_pos_of_ne_zero htotal
    have hlast := (lt_lastPageNumber_iff hsize total 0).2 (by omega)
    exact ⟨(lt_lastPageNumber_iff hsize total _).1 (by omega),
      total_le_lastPageNumber_mul hsize total⟩
  case last_zero => exact lastPageNumber_eq_zero
  case next =>
    intro base
    rw [Links.next?_eq base ⟨page, size, total⟩]
    by_cases h : page.toNat * size.toNat < total.toNat ∧ page.toNat < 2 ^ 64 - 1
    · have hadd : (page + 1).toNat = page.toNat + 1 := by
        rw [UInt64.toNat_add, UInt64.toNat_one]
        exact Nat.mod_eq_of_lt (by omega)
      have hnext : Links.HasNext ⟨page, size, total⟩ := h
      rw [if_pos hnext, if_pos h, ofPage, hadd]
    · have hnext : ¬ Links.HasNext ⟨page, size, total⟩ := h
      rw [if_neg hnext, if_neg h]
  case previous =>
    intro base
    rw [Links.previous?_eq base ⟨page, size, total⟩]
    by_cases h : 1 < page.toNat
    · rw [if_pos h, if_pos h, ofPage, toNat_sub_one_of_one_lt (UInt64.lt_iff_toNat_lt.2 h)]
    · rw [if_neg h, if_neg h]
  case last_words => exact lastPageInWords?_eq size total
  case next_words => exact nextInWords?_eq page size total
  case previous_words => exact previousInWords?_eq page

end PageLink

/-- Whatever words are given, page parameters are refused when the number of the page is zero, or
else when its size is, and are settled otherwise; and for every page the numbers in its links are
those of exact arithmetic. No step on the way leaves the words or divides by zero. -/
theorem PageRequest.resolve_exact (page pageSize : Option UInt64) (defaultSize maxSize : UInt64) :
    (resolve page pageSize defaultSize maxSize = .error .invalidPage ↔ page = some 0) ∧
    (resolve page pageSize defaultSize maxSize = .error .invalidPageSize ↔
      page ≠ some 0 ∧ pageSize.getD defaultSize = 0) ∧
    (page ≠ some 0 ∧ pageSize.getD defaultSize ≠ 0 ↔
      ∃ r, resolve page pageSize defaultSize maxSize = .ok r) ∧
    (∀ r, resolve page pageSize defaultSize maxSize = .ok r →
      Settled page pageSize defaultSize maxSize r) ∧
    ∀ number size total, PageLink.Exact number size total := by
  refine ⟨?_, ?_, ?_, fun r => settled_of_resolve, PageLink.exact⟩
  · simp [resolve_eq_error_iff]
  · simp [resolve_eq_error_iff]
  · simp [resolve_eq_ok_iff]

/-- The last number of 64 bits, with more items than a page may have: the items before the page are
too many to be counted, and no page comes after it. -/
theorem PageRequest.resolve_exact_sample :
    resolve (some (UInt64.ofNat (2 ^ 64 - 1))) (some 500) 20 100 =
      .ok ⟨UInt64.ofNat (2 ^ 64 - 1), 100⟩ ∧
    (⟨UInt64.ofNat (2 ^ 64 - 1), 100⟩ : PageRequest).skip.toNat = 2 ^ 64 - 1 ∧
    PageLink.next? "/movies" (UInt64.ofNat (2 ^ 64 - 1)) 0 7 = none ∧
    (7 : UInt64) ≠ 0 ∧ (UInt64.ofNat (2 ^ 64 - 1)) ≠ 0 ∧
    ((lastPageNumber 7 (UInt64.ofNat (2 ^ 64 - 1))).toNat - 1) * 7 < 2 ^ 64 - 1 := by
  have haccepted : resolve (some (UInt64.ofNat (2 ^ 64 - 1))) (some 500) 20 100 =
      .ok ⟨UInt64.ofNat (2 ^ 64 - 1), 100⟩ := rfl
  obtain ⟨-, -, -, hsettled, hexact⟩ :=
    resolve_exact (some (UInt64.ofNat (2 ^ 64 - 1))) (some 500) 20 100
  have hnext := (hexact (UInt64.ofNat (2 ^ 64 - 1)) 0 7).next "/movies"
  have hlast := (hexact 1 7 (UInt64.ofNat (2 ^ 64 - 1))).last (by decide) (by decide)
  exact ⟨haccepted, (hsettled _ haccepted).skip, hnext, by decide, by decide, hlast.1⟩

end Catalog
