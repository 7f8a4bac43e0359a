import Catalog.Query.Page

/-!
# Links between pages

Addresses of the first, the last and the neighbouring pages of a listing. A page has a previous one
if its number is above one, and a next one if items remain after it and its number can grow.
-/

namespace Catalog.PageLink

/-- The address of a page. -/
def ofPage (base : String) (page size : UInt64) : String :=
  base ++ "?page=" ++ toString page.toNat ++ "&pageSize=" ++ toString size.toNat

/-- The address of the first page. -/
def first (base : String) (size : UInt64) : String :=
  ofPage base 1 size

/-- The address of the last page. -/
def last (base : String) (size total : UInt64) : String :=
  ofPage base (lastPageNumber size total) size

/-- The number of the page before, if there is one. -/
def previousNumber? (page : UInt64) : Option UInt64 :=
  if page ≤ 1 then none else some (page - 1)

/-- The number of the page after, if items remain and the number can grow. -/
def nextNumber? (page size total : UInt64) : Option UInt64 :=
  if total.toNat ≤ min (page.toNat * size.toNat) maxUInt64 then none
  else if page.toNat = maxUInt64 then none
  else some (page + 1)

/-- The address of the page before. -/
def previous? (base : String) (page size : UInt64) : Option String :=
  (previousNumber? page).map fun n => ofPage base n size

/-- The address of the page after. -/
def next? (base : String) (page size total : UInt64) : Option String :=
  (nextNumber? page size total).map fun n => ofPage base n size

end Catalog.PageLink
