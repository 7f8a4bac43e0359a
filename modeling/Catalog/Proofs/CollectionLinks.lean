import Catalog.Links.Collection

/-!
# Links of a page

What a look-up finds among the links of a page of a collection, when no link is configured.

## Key results

- `get?_insertSome`: an optional link is found, or what was there before it
- `get?_ofCollection`: the address of every relation
-/

namespace Catalog

/-- Adding an optional link changes a look-up only if there is a link to add. -/
theorem LinkSet.get?_insertSome (s : LinkSet) (relation : String) (href : Option String)
    (r : String) :
    (s.insertSome relation href).get? r =
      if r = relation then href.or (s.get? r) else s.get? r := by
  cases href with
  | none => simp [insertSome]
  | some href => rw [insertSome, get?_insert, Option.some_or]

/-- No relation has an address in the empty set. -/
theorem LinkSet.get?_empty (r : String) : empty.get? r = none := rfl

namespace Links

/-- The links of a page without configured ones: five relations, of which `prev` and `next` are
there only if the page has such a neighbour. -/
theorem get?_ofCollection (d : PageDescriptor) (fullUrl r : String) :
    (ofCollection d fullUrl .empty).get? r =
      if r = "next" then PageLink.next? (stripQuery fullUrl) d.page d.pageSize d.totalCount
      else if r = "prev" then PageLink.previous? (stripQuery fullUrl) d.page d.pageSize
      else if r = "last" then some (PageLink.last (stripQuery fullUrl) d.pageSize d.totalCount)
      else if r = "first" then some (PageLink.first (stripQuery fullUrl) d.pageSize)
      else if r = "self" then some fullUrl
      else none := by
  have hnone : ∀ s : LinkSet, addTemplates .empty (stripQuery fullUrl) "" s = s := fun _ => rfl
  rw [ofCollection, hnone]
  simp only [LinkSet.get?_insertSome, LinkSet.get?_insert, LinkSet.get?_empty]
  -- below the first two relations nothing has their names
  split
  · next h => subst h; simp
  · split
    · next h => subst h; simp
    · rfl

end Links

end Catalog
