import Catalog.Query.Error

/-!
# Pages

Page numbers and sizes are unsigned 64-bit integers; pages are counted from one. Sums and products
are taken in natural numbers and bounded explicitly.
-/

namespace Catalog

/-- The greatest number of 64 bits. -/
def maxUInt64 : Nat := 0xFFFFFFFFFFFFFFFF

/-- The number of the last page; zero when pages are empty or nothing matched. -/
def lastPageNumber (size total : UInt64) : UInt64 :=
  UInt64.ofNat ((total.toNat + (size.toNat - 1)) / size.toNat)

/-- The position of a page in a listing. -/
structure PageDescriptor where
  /-- Page number, from one. -/
  page : UInt64
  /-- Items on a full page. -/
  pageSize : UInt64
  /-- Items in the whole listing. -/
  totalCount : UInt64
deriving DecidableEq, Repr

/-- The number of pages of the listing. -/
def PageDescriptor.totalPages (d : PageDescriptor) : UInt64 :=
  lastPageNumber d.pageSize d.totalCount

/-- A page asked for: its number and size. -/
structure PageRequest where
  /-- Page number. -/
  page : UInt64
  /-- Page size. -/
  pageSize : UInt64
deriving DecidableEq, Repr

namespace PageRequest

/-- Settle the page parameters. A missing page is the first, a missing size the default. Zero is
refused for both, the page first. A size above the maximum is lowered to it, but not below one. -/
def resolve (page pageSize : Option UInt64) (defaultSize maxSize : UInt64) :
    Except QueryError PageRequest :=
  let page := page.getD 1
  let size := pageSize.getD defaultSize
  if page = 0 then .error .invalidPage
  else if size = 0 then .error .invalidPageSize
  else .ok ⟨page, min size (max maxSize 1)⟩

/-- The number of items before the page, at most the greatest number of 64 bits. -/
def skip (r : PageRequest) : UInt64 :=
  UInt64.ofNat (min ((r.page.toNat - 1) * r.pageSize.toNat) maxUInt64)

/-- The number of items that the page takes. -/
def limit (r : PageRequest) : UInt64 := r.pageSize

/-- The position of the page in a listing of `total` items. -/
def describe (r : PageRequest) (total : UInt64) : PageDescriptor :=
  ⟨r.page, r.pageSize, total⟩

end PageRequest

/-- Items of one page with its position. -/
structure Page (α : Type) where
  /-- The items. -/
  items : List α
  /-- Their place in the listing. -/
  descriptor : PageDescriptor

end Catalog
