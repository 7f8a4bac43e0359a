import Catalog.Proofs.Occurrences

/-!
# Filling the places of a template

The places of a collection are filled first and those of a resource afterwards, so that the second
pass goes over what the first one has inserted. A template filled in one pass is cut at its own
places of a resource; the second pass finds further ones wherever the text between two of them has
become one, inside an inserted collection or across its border.

## Key results

- `Template.replaceAll_collectionPlace`, `Template.replaceAll_resourcePlace`: a pass for one kind of
  places as a pass for both
- `Template.exists_gaps`: the text between the places of a resource
- `Template.Inert.occurrences_scan`: when no new place comes about
- `Template.expand_eq_expandAtOnce_iff`: when two passes do what one does
-/

namespace Catalog.Template

open Text

variable {collection resource : List Char}

/-! ## One pass -/

theorem collectionPlace_ne_nil : collectionPlace ≠ [] := by decide

theorem resourcePlace_ne_nil : resourcePlace ≠ [] := by decide

/-- Fill the places of both kinds in one pass from left to right; what is inserted is not looked
at again. -/
def scan (collection resource : List Char) (cs : List Char) : List Char :=
  match h : Text.dropLead? collectionPlace cs with
  | some rest =>
    have : rest.length < cs.length := Text.length_lt_of_dropLead? collectionPlace_ne_nil h
    collection ++ scan collection resource rest
  | none =>
    match h : Text.dropLead? resourcePlace cs with
    | some rest =>
      have : rest.length < cs.length := Text.length_lt_of_dropLead? resourcePlace_ne_nil h
      resource ++ scan collection resource rest
    | none =>
      match cs with
      | [] => []
      | c :: cs => c :: scan collection resource cs
termination_by cs.length

/-- Fill the places of both kinds at once. -/
def expandAtOnce (template collection resource : String) : String :=
  String.ofList (scan collection.toList resource.toList template.toList)

theorem resourcePlace_eq : resourcePlace = '\x7b' :: "resource\x7d".toList := rfl

theorem collectionPlace_eq : collectionPlace = '\x7b' :: "collection\x7d".toList := rfl

/-- The places differ in their second character. -/
theorem not_starts_of_ne {a x y : Char} {xs ys : List Char} (h : x ≠ y)
    (rest : List Char) : ¬ a :: x :: xs <+: a :: y :: ys ++ rest := by
  intro hstart
  rw [List.cons_append, List.cons_prefix_cons, List.cons_append] at hstart
  exact h (List.cons_prefix_cons.1 hstart.2).1

theorem not_starts_collectionPlace (rest : List Char) :
    ¬ collectionPlace <+: resourcePlace ++ rest :=
  not_starts_of_ne (by decide) rest

theorem not_starts_resourcePlace (rest : List Char) :
    ¬ resourcePlace <+: collectionPlace ++ rest :=
  not_starts_of_ne (by decide) rest

/-- Go through a template from left to right, from place to place. -/
theorem induction_on_places {motive : List Char → Prop} (nil : motive [])
    (collection : ∀ rest, motive rest → motive (collectionPlace ++ rest))
    (resource : ∀ rest, motive rest → motive (resourcePlace ++ rest))
    (char : ∀ c cs, ¬ collectionPlace <+: c :: cs → ¬ resourcePlace <+: c :: cs → motive cs →
      motive (c :: cs))
    (cs : List Char) : motive cs := by
  have hne : ∀ place ∈ [collectionPlace, resourcePlace], place ≠ [] := by decide
  induction cs using induction_on_targets hne with
  | nil => exact nil
  | occurrence place hplace rest ih =>
    rw [List.mem_cons, List.mem_singleton] at hplace
    rcases hplace with rfl | rfl
    · exact collection rest ih
    · exact resource rest ih
  | char c cs hnone ih => exact char c cs (hnone _ (by simp)) (hnone _ (by simp)) ih

theorem scan_nil : scan collection resource [] = [] := by
  rw [scan]
  rfl

theorem scan_collectionPlace (rest : List Char) :
    scan collection resource (collectionPlace ++ rest) =
      collection ++ scan collection resource rest := by
  rw [scan]
  split
  · next found hfound =>
    rw [dropLead?_append] at hfound
    cases hfound
    rfl
  · next hnone =>
    rw [dropLead?_append] at hnone
    cases hnone

theorem scan_resourcePlace (rest : List Char) :
    scan collection resource (resourcePlace ++ rest) =
      resource ++ scan collection resource rest := by
  have hnone := dropLead?_eq_none (not_starts_collectionPlace rest)
  rw [scan]
  split
  · next found hfound =>
    rw [hnone] at hfound
    cases hfound
  · split
    · next found hfound =>
      rw [dropLead?_append] at hfound
      cases hfound
      rfl
    · next hnone =>
      rw [dropLead?_append] at hnone
      cases hnone

theorem scan_cons {c : Char} {cs : List Char} (hcollection : ¬ collectionPlace <+: c :: cs)
    (hresource : ¬ resourcePlace <+: c :: cs) :
    scan collection resource (c :: cs) = c :: scan collection resource cs := by
  rw [scan]
  split
  · next found hfound =>
    rw [dropLead?_eq_none hcollection] at hfound
    cases hfound
  · split
    · next found hfound =>
      rw [dropLead?_eq_none hresource] at hfound
      cases hfound
    · rfl

/-! ## A pass for one kind of places -/

theorem first_not_mem_resource : '\x7b' ∉ "resource\x7d".toList := by decide

theorem first_not_mem_collection : '\x7b' ∉ "collection\x7d".toList := by decide

/-- A pass for the places of a collection leaves those of a resource as they are. -/
theorem replaceAll_collectionPlace (cs : List Char) :
    replaceAll collectionPlace collection cs = scan collection resourcePlace cs := by
  induction cs using induction_on_places with
  | nil => rw [scan_nil, collectionPlace_eq, replaceAll_nil]
  | collection rest ih =>
    rw [scan_collectionPlace, replaceAll_target collectionPlace_ne_nil, ih]
  | resource rest ih =>
    have hkept : replaceAll collectionPlace collection (resourcePlace ++ rest) =
        resourcePlace ++ replaceAll collectionPlace collection rest :=
      replaceAll_cons_append first_not_mem_resource (not_starts_collectionPlace rest)
    rw [scan_resourcePlace, hkept, ih]
  | char c cs hcollection hresource ih =>
    rw [scan_cons hcollection hresource, replaceAll_cons collectionPlace_ne_nil hcollection, ih]

/-- A pass for the places of a resource leaves those of a collection as they are. -/
theorem replaceAll_resourcePlace (cs : List Char) :
    replaceAll resourcePlace resource cs = scan collectionPlace resource cs := by
  induction cs using induction_on_places with
  | nil => rw [scan_nil, resourcePlace_eq, replaceAll_nil]
  | collection rest ih =>
    have hkept : replaceAll resourcePlace resource (collectionPlace ++ rest) =
        collectionPlace ++ replaceAll resourcePlace resource rest :=
      replaceAll_cons_append first_not_mem_collection (not_starts_resourcePlace rest)
    rw [scan_collectionPlace, hkept, ih]
  | resource rest ih => rw [scan_resourcePlace, replaceAll_target resourcePlace_ne_nil, ih]
  | char c cs hcollection hresource ih =>
    rw [scan_cons hcollection hresource, replaceAll_cons resourcePlace_ne_nil hresource, ih]

/-! ## The places of a resource -/

/-- A place of a collection holds no place of a resource. -/
theorem occurrences_collectionPlace (rest : List Char) :
    occurrences resourcePlace (collectionPlace ++ rest) = occurrences resourcePlace rest :=
  occurrences_cons_append first_not_mem_collection (not_starts_resourcePlace rest)

theorem occurrences_resourcePlace (rest : List Char) :
    occurrences resourcePlace (resourcePlace ++ rest) = occurrences resourcePlace rest + 1 :=
  occurrences_target first_not_mem_resource rest

/-- The text between the places of a resource does not depend on what they are filled with. -/
theorem exists_gaps (collection cs : List Char) :
    ∃ gaps ≠ [], occurrences resourcePlace cs + 1 = gaps.length ∧
      ∀ resource, scan collection resource cs = resource.intercalate gaps := by
  -- a place of a resource opens a gap, and all else goes to the front of the first one
  induction cs using induction_on_places with
  | nil => exact ⟨[[]], by simp, rfl, fun resource => by rw [scan_nil, List.intercalate_singleton]⟩
  | collection rest ih =>
    obtain ⟨gaps, hne, hlength, hscan⟩ := ih
    obtain ⟨gap, gaps, rfl⟩ := List.exists_cons_of_ne_nil hne
    refine ⟨(collection ++ gap) :: gaps, List.cons_ne_nil _ _, ?_, fun resource => ?_⟩
    · rw [occurrences_collectionPlace, hlength, List.length_cons, List.length_cons]
    · rw [scan_collectionPlace, hscan, intercalate_append_cons]
  | resource rest ih =>
    obtain ⟨gaps, hne, hlength, hscan⟩ := ih
    refine ⟨[] :: gaps, List.cons_ne_nil _ _, ?_, fun resource => ?_⟩
    · rw [occurrences_resourcePlace, hlength, List.length_cons]
    · rw [scan_resourcePlace, hscan, List.intercalate_cons_of_ne_nil hne, List.nil_append]
  | char c cs hcollection hresource ih =>
    obtain ⟨gaps, hne, hlength, hscan⟩ := ih
    obtain ⟨gap, gaps, rfl⟩ := List.exists_cons_of_ne_nil hne
    refine ⟨(c :: gap) :: gaps, List.cons_ne_nil _ _, ?_, fun resource => ?_⟩
    · rw [occurrences_cons hresource, hlength, List.length_cons, List.length_cons]
    · rw [scan_cons hcollection hresource, hscan, List.intercalate_cons_cons_left]

/-- After a pass for the collection, a pass for the resource fills the template's own places and no
others exactly if there are no others, or if it changes nothing. -/
theorem replaceAll_scan_eq_iff (collection resource cs : List Char) :
    replaceAll resourcePlace resource (scan collection resourcePlace cs) =
        scan collection resource cs ↔
      resource = resourcePlace ∨
        occurrences resourcePlace (scan collection resourcePlace cs) =
          occurrences resourcePlace cs := by
  -- the places are put back between the gaps, so that further ones are inside of the gaps
  obtain ⟨gaps, hne, hlength, hscan⟩ := exists_gaps collection cs
  have hfirst := first_not_mem_resource
  have hbetween : replaceAll resourcePlace resource (resourcePlace.intercalate gaps) =
      resource.intercalate (gaps.map (replaceAll resourcePlace resource)) :=
    replaceAll_intercalate hfirst gaps
  have hall : occurrences resourcePlace (resourcePlace.intercalate gaps) + 1 =
      occurrencesIn resourcePlace gaps + gaps.length := occurrences_intercalate hfirst hne
  have hiff : resource.intercalate (gaps.map (replaceAll resourcePlace resource)) =
      resource.intercalate gaps ↔ resource = resourcePlace ∨ occurrencesIn resourcePlace gaps = 0 :=
    intercalate_replaceAll_eq_iff hfirst gaps
  have hzero : occurrences resourcePlace (resourcePlace.intercalate gaps) =
      occurrences resourcePlace cs ↔ occurrencesIn resourcePlace gaps = 0 := by omega
  rw [hscan, hscan, hbetween, hiff, hzero]

/-! ## Collections that are no part of a place -/

/-- A text without braces, and with some character that no place of a resource has, is no part of
such a place, and no such place is a part of it. -/
structure Inert (collection : List Char) : Prop where
  noOpening : '\x7b' ∉ collection
  noClosing : '\x7d' ∉ collection
  foreign : ∃ c ∈ collection, c ∉ resourcePlace

theorem closing_mem_of_suffix {back : List Char} (h : back <:+ "resource\x7d".toList)
    (hne : back ≠ []) : '\x7d' ∈ back := by
  have hcut : "resource\x7d".toList = "resource".toList ++ ['\x7d'] := rfl
  rw [hcut, List.suffix_concat_iff] at h
  rcases h with rfl | ⟨front, rfl, -⟩
  · exact absurd rfl hne
  · simp

/-- The back of a place that stands in a filled template stands in the template. -/
theorem Inert.prefix_of_prefix_scan (h : Inert collection) {back cs : List Char}
    (hback : back <:+ "resource\x7d".toList)
    (hstart : back <+: scan collection resourcePlace cs) : back <+: cs := by
  induction cs using induction_on_places generalizing back with
  | nil => rwa [scan_nil] at hstart
  | collection rest ih =>
    cases back with
    | nil => exact List.nil_prefix
    | cons b back =>
      -- the back of a place neither ends in the collection nor runs across it
      rw [scan_collectionPlace] at hstart
      rcases List.prefix_or_prefix_of_prefix hstart (List.prefix_append collection _) with
        hinside | hacross
      · have hclosing := closing_mem_of_suffix hback (List.cons_ne_nil b back)
        exact absurd (hinside.subset hclosing) h.noClosing
      · obtain ⟨c, hc, hforeign⟩ := h.foreign
        exact absurd (List.mem_cons_of_mem _ (hback.subset (hacross.subset hc))) hforeign
  | resource rest ih =>
    cases back with
    | nil => exact List.nil_prefix
    | cons b back =>
      rw [scan_resourcePlace, resourcePlace_eq, List.cons_append, List.cons_prefix_cons] at hstart
      exact absurd (hback.subset (by rw [hstart.1]; simp)) first_not_mem_resource
  | char c cs hcollection hresource ih =>
    cases back with
    | nil => exact List.nil_prefix
    | cons b back =>
      rw [scan_cons hcollection hresource, List.cons_prefix_cons] at hstart
      have hrest := ih ((List.suffix_cons b back).trans hback) hstart.2
      exact List.cons_prefix_cons.2 ⟨hstart.1, hrest⟩

/-- No place of a resource comes about around an inert collection. -/
theorem Inert.occurrences_scan (h : Inert collection) (cs : List Char) :
    occurrences resourcePlace (scan collection resourcePlace cs) =
      occurrences resourcePlace cs := by
  induction cs using induction_on_places with
  | nil => rw [scan_nil]
  | collection rest ih =>
    have hkept : occurrences resourcePlace (collection ++ scan collection resourcePlace rest) =
        occurrences resourcePlace (scan collection resourcePlace rest) :=
      occurrences_append_of_not_mem h.noOpening _
    rw [scan_collectionPlace, hkept, ih, occurrences_collectionPlace]
  | resource rest ih =>
    rw [scan_resourcePlace, occurrences_resourcePlace, occurrences_resourcePlace, ih]
  | char c cs hcollection hresource ih =>
    have hnew : ¬ resourcePlace <+: c :: scan collection resourcePlace cs := by
      intro hstart
      rw [resourcePlace_eq, List.cons_prefix_cons] at hstart
      have hback := h.prefix_of_prefix_scan List.suffix_rfl hstart.2
      exact hresource (List.cons_prefix_cons.2 ⟨hstart.1, hback⟩)
    rw [scan_cons hcollection hresource, occurrences_cons hnew, occurrences_cons hresource, ih]

/-! ## Templates -/

/-- Where the collection is filled in, there are as many places of a resource as before. -/
def KeepsPlaces (template collection : String) : Prop :=
  occurrences resourcePlace (expandAtOnce template collection "\x7bresource\x7d").toList =
    occurrences resourcePlace template.toList

theorem expandAtOnce_collectionPlace (collection resource : String) :
    expandAtOnce "\x7bcollection\x7d" collection resource = collection := by
  show String.ofList (scan collection.toList resource.toList (collectionPlace ++ [])) = collection
  rw [scan_collectionPlace, scan_nil, List.append_nil, String.ofList_toList]

theorem expandAtOnce_resourcePlace (collection resource : String) :
    expandAtOnce "\x7bresource\x7d" collection resource = resource := by
  show String.ofList (scan collection.toList resource.toList (resourcePlace ++ [])) = resource
  rw [scan_resourcePlace, scan_nil, List.append_nil, String.ofList_toList]

/-- The first of the two passes puts the places of a resource back. -/
theorem expand_eq (template collection resource : String) :
    expand template collection resource =
      String.ofList (replaceAll resourcePlace resource.toList
        (scan collection.toList resourcePlace template.toList)) := by
  rw [← replaceAll_collectionPlace]
  rfl

/-- Each pass fills the places of one kind and puts those of the other back. -/
theorem expand_eq_expandAtOnce_expandAtOnce (template collection resource : String) :
    expand template collection resource =
      expandAtOnce (expandAtOnce template collection "\x7bresource\x7d") "\x7bcollection\x7d"
        resource := by
  show _ = String.ofList (scan collectionPlace resource.toList
    (String.ofList (scan collection.toList resourcePlace template.toList)).toList)
  rw [expand_eq, replaceAll_resourcePlace, String.toList_ofList]

/-- The places of one kind after those of the other are filled like both at once exactly if the
first ones bring no place of the second kind along, as no inert collection does, or if the second
ones are filled with themselves. -/
theorem expand_eq_expandAtOnce_iff (template collection resource : String) :
    (expand template collection resource = expandAtOnce template collection resource ↔
      resource = "\x7bresource\x7d" ∨ KeepsPlaces template collection) ∧
    (Inert collection.toList → KeepsPlaces template collection) ∧
    expand template collection resource =
      expandAtOnce (expandAtOnce template collection "\x7bresource\x7d") "\x7bcollection\x7d"
        resource := by
  have hplace : "\x7bresource\x7d".toList = resourcePlace := rfl
  refine ⟨?_, fun h => ?_, expand_eq_expandAtOnce_expandAtOnce template collection resource⟩
  · unfold KeepsPlaces expandAtOnce
    rw [expand_eq, String.ofList_inj, replaceAll_scan_eq_iff, String.toList_ofList,
      ← String.toList_inj, hplace]
  · unfold KeepsPlaces expandAtOnce
    rw [String.toList_ofList, hplace, h.occurrences_scan]

theorem expand_eq_expandAtOnce_iff_sample :
    Inert "/movies".toList ∧
    expand "\x7bcollection\x7d/\x7bresource\x7d/comments" "/movies" "7" =
      expandAtOnce "\x7bcollection\x7d/\x7bresource\x7d/comments" "/movies" "7" := by
  have hinert : Inert "/movies".toList := ⟨by decide, by decide, '/', by decide, by decide⟩
  obtain ⟨hiff, hkeeps, -⟩ :=
    expand_eq_expandAtOnce_iff "\x7bcollection\x7d/\x7bresource\x7d/comments" "/movies" "7"
  exact ⟨hinert, hiff.2 (.inr (hkeeps hinert))⟩

/-- A place of a resource is filled inside an inserted collection, and across its border. -/
theorem exists_inserted_place_filled :
    (expandAtOnce "\x7bcollection\x7d" "\x7bresource\x7d" "7" = "\x7bresource\x7d" ∧
      expand "\x7bcollection\x7d" "\x7bresource\x7d" "7" = "7") ∧
    expandAtOnce "\x7bres\x7bcollection\x7d" "ource\x7d" "7" = "\x7bresource\x7d" ∧
      expand "\x7bres\x7bcollection\x7d" "ource\x7d" "7" = "7" := by
  have hborder : ∀ resource,
      expandAtOnce "\x7bres\x7bcollection\x7d" "ource\x7d" resource = "\x7bresource\x7d" := by
    intro resource
    have hcut : "\x7bres\x7bcollection\x7d".toList =
      '\x7b' :: 'r' :: 'e' :: 's' :: (collectionPlace ++ []) := rfl
    unfold expandAtOnce
    rw [hcut, scan_cons (by decide) (by decide), scan_cons (by decide) (by decide),
      scan_cons (by decide) (by decide), scan_cons (by decide) (by decide), scan_collectionPlace,
      scan_nil]
    rfl
  refine ⟨⟨expandAtOnce_collectionPlace _ _, ?_⟩, hborder _, ?_⟩
  · rw [expand_eq_expandAtOnce_expandAtOnce, expandAtOnce_collectionPlace,
      expandAtOnce_resourcePlace]
  · rw [expand_eq_expandAtOnce_expandAtOnce, hborder, expandAtOnce_resourcePlace]

end Catalog.Template
