import Catalog.Proofs.CollectionLinks
import Catalog.Proofs.PageArithmetic
import Catalog.Proofs.Pieces

/-!
# Configured links beside generated ones

Configured links are added behind the generated ones and never replace them. But they are added
under every relation that is still free, so a relation that a page or a resource does not have leads
wherever it is configured to.

## Key results

- `Links.get?_addTemplates`: what adding configured links does to a look-up
- `Links.ofPage_ofCollection_iff`, `Links.ofAddress_ofResource_iff`: when the relations are those
  of the page, and those of the resource
- `Links.generated_iff`: both, and what stands in the place of a relation that is not generated
-/

namespace Catalog

/-- A relation is there exactly if `p` holds, and then leads to `href`. -/
def LinkSet.LinksIf (s : LinkSet) (relation : String) (p : Prop) (href : String) : Prop :=
  (s.contains relation = true ↔ p) ∧ ∀ found, s.get? relation = some found → found = href

/-- A relation with another address in the place of the generated one is there too often if that
address is given while the generated one is not. -/
theorem LinkSet.linksIf_iff {s : LinkSet} {relation href : String} {p : Prop} [Decidable p]
    {other : Option String} (h : s.get? relation = if p then some href else other) :
    s.LinksIf relation p href ↔ (other.isSome = true → p) := by
  unfold LinksIf
  rw [contains_eq_isSome_get?, h]
  by_cases hp : p
  · simp [hp]
  · cases other <;> simp [hp]

/-- Nothing is replaced in a text without the first character of what is looked for. -/
theorem Text.replaceAll_of_not_mem {t : Char} {ts value cs : List Char} (h : t ∉ cs) :
    replaceAll (t :: ts) value cs = cs :=
  replaceAll_of_not_infix (List.cons_ne_nil t ts) fun hin => h (hin.subset List.mem_cons_self)

/-- A template without places is an address. -/
theorem Template.expand_of_not_mem {template : String} (h : '\x7b' ∉ template.toList)
    (collection resource : String) : expand template collection resource = template := by
  have hcollection : Text.replaceAll collectionPlace collection.toList template.toList =
      template.toList := Text.replaceAll_of_not_mem h
  have hresource : Text.replaceAll resourcePlace resource.toList template.toList =
      template.toList := Text.replaceAll_of_not_mem h
  rw [expand, hcollection, hresource, String.ofList_toList]

namespace Links

/-- A configured link is found only where there was none before. -/
theorem get?_addTemplates (templates : Templates) (collection resource : String) (s : LinkSet)
    (r : String) :
    (addTemplates templates collection resource s).get? r =
      (s.get? r).or ((templates.get? r).map fun t => Template.expand t collection resource) := by
  unfold addTemplates SortedMap.get?
  show ((templates.entries.foldl _ s).get? r) = _
  -- the first configured link of a relation takes the place, so later ones find it taken
  induction templates.entries generalizing s with
  | nil => simp
  | cons entry rest ih =>
    obtain ⟨relation, template⟩ := entry
    rw [List.foldl_cons, ih, LinkSet.get?_insertAbsent, Option.or_assoc]
    by_cases h : r = relation
    · simp [h]
    · have hb : (r == relation) = false := by simpa using h
      simp [h, List.lookup_cons, hb]

/-! ## Pages of a collection -/

/-- Items remain behind the page, and its number can grow. -/
def HasNext (d : PageDescriptor) : Prop :=
  d.page.toNat * d.pageSize.toNat < d.totalCount.toNat ∧ d.page.toNat < maxUInt64

instance (d : PageDescriptor) : Decidable (HasNext d) :=
  inferInstanceAs (Decidable (_ ∧ _))

/-- The relations in a set of links are those of a page: neighbours are linked exactly if the page
has them, and every relation leads where the page says. -/
structure OfPage (d : PageDescriptor) (fullUrl : String) (links : LinkSet) : Prop where
  self : links.get? "self" = some fullUrl
  first : links.get? "first" = some (PageLink.first (stripQuery fullUrl) d.pageSize)
  last : links.get? "last" = some (PageLink.last (stripQuery fullUrl) d.pageSize d.totalCount)
  prev : links.LinksIf "prev" (1 < d.page.toNat)
    (PageLink.ofPage (stripQuery fullUrl) (d.page - 1) d.pageSize)
  next : links.LinksIf "next" (HasNext d)
    (PageLink.ofPage (stripQuery fullUrl) (d.page + 1) d.pageSize)

/-- The saturating product and the bounded successor ask whether there is a next page. -/
theorem next?_eq (base : String) (d : PageDescriptor) :
    PageLink.next? base d.page d.pageSize d.totalCount =
      if HasNext d then some (PageLink.ofPage base (d.page + 1) d.pageSize) else none := by
  have htotal := toNat_le_maxUInt64 d.totalCount
  have hpage := toNat_le_maxUInt64 d.page
  -- a product that is cut off is not less than any number of items
  unfold PageLink.next? PageLink.nextNumber?
  by_cases h : HasNext d
  · obtain ⟨hbefore, hgrows⟩ := h
    rw [if_neg (by omega), if_neg (by omega), if_pos ⟨hbefore, hgrows⟩]
    rfl
  · rw [if_neg h]
    unfold HasNext at h
    split
    · rfl
    · rw [if_pos (by omega)]
      rfl

theorem previous?_eq (base : String) (d : PageDescriptor) :
    PageLink.previous? base d.page d.pageSize =
      if 1 < d.page.toNat then some (PageLink.ofPage base (d.page - 1) d.pageSize) else none := by
  have hone : 1 < d.page ↔ 1 < d.page.toNat := UInt64.lt_iff_toNat_lt
  rw [PageLink.previous?, PageLink.previousNumber?_eq]
  by_cases h : 1 < d.page.toNat
  · rw [if_pos h, if_pos (hone.2 h)]
    rfl
  · rw [if_neg h, if_neg (mt hone.1 h)]
    rfl

/-- Where a configured relation of a page leads. -/
def configured? (fullUrl : String) (extra : Templates) (relation : String) : Option String :=
  (extra.get? relation).map fun t => Template.expand t (stripQuery fullUrl) ""

/-- Configured links stand behind those of the page. -/
theorem get?_ofCollection_configured (d : PageDescriptor) (fullUrl : String) (extra : Templates)
    (r : String) :
    (ofCollection d fullUrl extra).get? r =
      ((ofCollection d fullUrl .empty).get? r).or (configured? fullUrl extra r) :=
  get?_addTemplates extra (stripQuery fullUrl) "" (ofCollection d fullUrl .empty) r

/-- The previous page is linked if there is one, and whatever is configured if not. -/
theorem get?_prev (d : PageDescriptor) (fullUrl : String) (extra : Templates) :
    (ofCollection d fullUrl extra).get? "prev" =
      if 1 < d.page.toNat then some (PageLink.ofPage (stripQuery fullUrl) (d.page - 1) d.pageSize)
      else configured? fullUrl extra "prev" := by
  rw [get?_ofCollection_configured, get?_ofCollection, previous?_eq]
  by_cases h : 1 < d.page.toNat <;> simp [h]

/-- So is the next page. -/
theorem get?_next (d : PageDescriptor) (fullUrl : String) (extra : Templates) :
    (ofCollection d fullUrl extra).get? "next" =
      if HasNext d then some (PageLink.ofPage (stripQuery fullUrl) (d.page + 1) d.pageSize)
      else configured? fullUrl extra "next" := by
  rw [get?_ofCollection_configured, get?_ofCollection, next?_eq]
  by_cases h : HasNext d <;> simp [h]

/-- The relations of a page are its own, unless one that it does not have is configured. -/
theorem ofPage_ofCollection_iff (d : PageDescriptor) (fullUrl : String) (extra : Templates) :
    OfPage d fullUrl (ofCollection d fullUrl extra) ↔
      (extra.contains "prev" = true → 1 < d.page.toNat) ∧
      (extra.contains "next" = true → HasNext d) := by
  have hprev := LinkSet.linksIf_iff (get?_prev d fullUrl extra)
  have hnext := LinkSet.linksIf_iff (get?_next d fullUrl extra)
  rw [configured?, Option.isSome_map] at hprev hnext
  constructor
  · intro h
    exact ⟨hprev.1 h.prev, hnext.1 h.next⟩
  · rintro ⟨hfreePrev, hfreeNext⟩
    refine ⟨?_, ?_, ?_, hprev.2 hfreePrev, hnext.2 hfreeNext⟩
    -- the other three are generated for every page
    all_goals
      rw [get?_ofCollection_configured, get?_ofCollection]
      simp

end Links

/-! ## Resources -/

namespace RequestAddress

/-- The address without its last segment. -/
def parent (a : RequestAddress) : RequestAddress :=
  a.withSegments a.segments.dropLast

/-- The last segment. -/
def resourceName (a : RequestAddress) : String :=
  String.ofList (a.segments.getLast?.getD [])

/-- The segment before the last one names a known collection. -/
def InKnown (a : RequestAddress) (known : List String) : Prop :=
  ∃ name ∈ a.segments.dropLast.getLast?, String.ofList name ∈ known

instance (a : RequestAddress) (known : List String) : Decidable (a.InKnown known) :=
  inferInstanceAs (Decidable (∃ name ∈ a.segments.dropLast.getLast?, String.ofList name ∈ known))

end RequestAddress

namespace Links

/-- The relations in a set of links are those of a resource: the collection is linked exactly if it
is known, and both relations lead where the address says. -/
structure OfAddress (address : RequestAddress) (known : List String) (links : LinkSet) : Prop where
  self : links.get? "self" = some address.render
  collection : links.LinksIf "collection" (address.InKnown known) address.parent.render

variable {fullUrl : String} {address : RequestAddress}

/-- Configured links stand behind those of the resource. -/
theorem get?_ofResource (h : RequestAddress.parse? fullUrl = some address) (known : List String)
    (extra : Templates) (r : String) :
    (ofResource fullUrl known extra).get? r =
      (if r = "collection" ∧ address.InKnown known then some address.parent.render
        else if r = "self" then some address.render else none).or
      ((extra.get? r).map fun t =>
        Template.expand t address.parent.render address.resourceName) := by
  unfold ofResource
  rw [h]
  show (addTemplates extra address.parent.render address.resourceName _).get? r = _
  rw [get?_addTemplates]
  congr 1
  have hparent : address.InKnown known ↔
      ∃ name ∈ address.segments.dropLast.getLast?, String.ofList name ∈ known := Iff.rfl
  -- an address of one segment has no collection to be known
  rcases Option.eq_none_or_eq_some address.segments.dropLast.getLast? with hlast | ⟨name, hlast⟩
  · rw [hlast] at hparent ⊢
    simp [hparent, LinkSet.get?_insert, LinkSet.get?_empty]
  · rw [hlast] at hparent ⊢
    by_cases hname : String.ofList name ∈ known
    · simp [hparent, hname, LinkSet.get?_insert, LinkSet.get?_empty, RequestAddress.parent]
    · simp [hparent, hname, LinkSet.get?_insert, LinkSet.get?_empty]

theorem get?_self (h : RequestAddress.parse? fullUrl = some address) (known : List String)
    (extra : Templates) : (ofResource fullUrl known extra).get? "self" = some address.render := by
  rw [get?_ofResource h]
  simp

/-- The collection is linked if it is known, and whatever is configured if not. -/
theorem get?_collection (h : RequestAddress.parse? fullUrl = some address) (known : List String)
    (extra : Templates) :
    (ofResource fullUrl known extra).get? "collection" =
      if address.InKnown known then some address.parent.render
      else (extra.get? "collection").map fun t =>
        Template.expand t address.parent.render address.resourceName := by
  rw [get?_ofResource h]
  by_cases hknown : address.InKnown known <;> simp [hknown]

/-- The relations of a resource are its own, unless a collection that is not known is configured. -/
theorem ofAddress_ofResource_iff (h : RequestAddress.parse? fullUrl = some address)
    (known : List String) (extra : Templates) :
    OfAddress address known (ofResource fullUrl known extra) ↔
      (extra.contains "collection" = true → address.InKnown known) := by
  have hcollection := LinkSet.linksIf_iff (get?_collection h known extra)
  rw [Option.isSome_map] at hcollection
  constructor
  · intro hown
    exact hcollection.1 hown.collection
  · intro hfree
    exact ⟨get?_self h known extra, hcollection.2 hfree⟩

/-! ## Both together -/

/-- Generated relations are never replaced by configured ones. A neighbour of a page and the
collection of a resource are found exactly where they are generated if they are not configured; one
that is configured is found everywhere, and leads to its configured place where it is not
generated. -/
theorem generated_iff (d : PageDescriptor) (fullUrl : String) (extra : Templates)
    (known : List String) :
    (OfPage d fullUrl (ofCollection d fullUrl extra) ↔
      (extra.contains "prev" = true → 1 < d.page.toNat) ∧
      (extra.contains "next" = true → HasNext d)) ∧
    (∀ r ∈ ["self", "first", "last"],
      (ofCollection d fullUrl extra).get? r = (ofCollection d fullUrl .empty).get? r) ∧
    (ofCollection d fullUrl extra).get? "prev" =
      (if 1 < d.page.toNat then some (PageLink.ofPage (stripQuery fullUrl) (d.page - 1) d.pageSize)
      else configured? fullUrl extra "prev") ∧
    (ofCollection d fullUrl extra).get? "next" =
      (if HasNext d then some (PageLink.ofPage (stripQuery fullUrl) (d.page + 1) d.pageSize)
      else configured? fullUrl extra "next") ∧
    ∀ address, RequestAddress.parse? fullUrl = some address →
      (OfAddress address known (ofResource fullUrl known extra) ↔
        (extra.contains "collection" = true → address.InKnown known)) ∧
      (ofResource fullUrl known extra).get? "self" = some address.render ∧
      (ofResource fullUrl known extra).get? "collection" =
        if address.InKnown known then some address.parent.render
        else (extra.get? "collection").map fun t =>
          Template.expand t address.parent.render address.resourceName := by
  refine ⟨ofPage_ofCollection_iff d fullUrl extra, ?_, get?_prev d fullUrl extra,
    get?_next d fullUrl extra, fun address h => ⟨ofAddress_ofResource_iff h known extra,
      get?_self h known extra, get?_collection h known extra⟩⟩
  intro r hr
  rw [get?_ofCollection_configured, get?_ofCollection]
  simp only [List.mem_cons, List.not_mem_nil, or_false] at hr
  rcases hr with rfl | rfl | rfl <;> simp

/-- Links that take the names of generated ones. -/
def sampleExtra : Templates :=
  .ofList [("collection", "/ignored"), ("next", "/ignored")]

/-- The second page of three, and a movie in a known collection. -/
theorem generated_iff_sample :
    OfPage ⟨2, 10, 25⟩ "/movies/42" (ofCollection ⟨2, 10, 25⟩ "/movies/42" sampleExtra) ∧
    ∃ address, RequestAddress.parse? "/movies/42" = some address ∧
      OfAddress address ["movies"] (ofResource "/movies/42" ["movies"] sampleExtra) := by
  obtain ⟨hpage, -, -, -, hresource⟩ :=
    generated_iff ⟨2, 10, 25⟩ "/movies/42" sampleExtra ["movies"]
  refine ⟨hpage.2 (by decide), _, rfl, (hresource _ rfl).1.2 fun _ => ?_⟩
  decide

/-- On the last page, a configured next page stands in for the one that is not there; and a
configured collection for one that is not known. -/
theorem exists_configured_stands_in :
    (ofCollection ⟨1, 10, 5⟩ "/movies" sampleExtra).get? "next" = some "/ignored" ∧
    ¬ OfPage ⟨1, 10, 5⟩ "/movies" (ofCollection ⟨1, 10, 5⟩ "/movies" sampleExtra) ∧
    ∃ address, RequestAddress.parse? "/theaters/42" = some address ∧
      (ofResource "/theaters/42" ["movies"] sampleExtra).get? "collection" = some "/ignored" ∧
      ¬ OfAddress address ["movies"] (ofResource "/theaters/42" ["movies"] sampleExtra) := by
  have hplaces : '\x7b' ∉ "/ignored".toList := by decide
  refine ⟨?_, fun h => ?_, _, rfl, ?_, fun h => ?_⟩
  · rw [get?_next, if_neg (by decide)]
    exact congrArg some (Template.expand_of_not_mem hplaces _ _)
  · exact absurd (((ofPage_ofCollection_iff _ _ _).1 h).2 rfl) (by decide)
  · rw [get?_collection rfl, if_neg (by decide)]
    exact congrArg some (Template.expand_of_not_mem hplaces _ _)
  · exact absurd ((ofAddress_ofResource_iff rfl _ _).1 h rfl) (by decide)

end Links

end Catalog
