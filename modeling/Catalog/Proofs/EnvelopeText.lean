import Catalog.Proofs.AnswerText
import Catalog.Proofs.ConfiguredLinks
import Catalog.Proofs.MovieDocuments

/-!
# The text of an envelope

The text of a page of a collection reads as all of the page: its items in order, each with its own
fields and its links, and the links of the page. The members that the envelope adds stand in it once,
except that an item may have a field of its own under the name of its links.

## Key results

- `Json.parseWithin?_render`: texts are read by any reader that goes deep enough
- `Links.finite_envelope`: what a reader finds in the text of a page
- `Links.envelope_lossless`: the same together with the keys that are distinct
- `Links.exists_repeated_key`: an item whose text has a key twice
-/

namespace Catalog

/-! ## Reading values of any depth -/

namespace Json

/-- Read a text that is one value and nothing else, with no more than `depth` containers inside each
other. -/
def parseWithin? (depth : Nat) (s : String) : Option Json :=
  let cs := s.toList
  match readValue? (2 * cs.length + 2) depth cs with
  | some (j, rest) => if (skipSpace rest).isEmpty then some j else none
  | none => none

theorem parse?_eq_parseWithin? (s : String) : parse? s = parseWithin? maxDepth s := rfl

/-- The whole text of a value reads as this value, however deep it is, if the reader goes so far. -/
theorem parseWithin?_render {j : Json} {depth : Nat} (h : Fits j depth) :
    parseWithin? depth j.render = some j.finite := by
  have hread := readValue?_renderChars (2 * (renderChars j).length + 2) j depth h (by omega) []
    fun _ hc => nomatch hc
  rw [List.append_nil] at hread
  simp only [parseWithin?, render, String.toList_ofList, hread]
  rfl

theorem finiteFields_eq_map (fields : Fields) :
    finiteFields fields = fields.map fun field => (field.1, field.2.finite) := by
  induction fields with
  | nil => rfl
  | cons field fields ih => rw [finiteFields, ih, List.map_cons]

/-- No key of an object stands in it twice. -/
def DistinctKeys (fields : Fields) : Prop :=
  (fields.map Prod.fst).Nodup

instance (fields : Fields) : Decidable (DistinctKeys fields) :=
  inferInstanceAs (Decidable (List.Nodup _))

end Json

open Json

/-! ## Links -/

namespace LinkSet

/-- The members of the object of a set of links: the relations with their addresses, in order. -/
def members (s : LinkSet) : Fields :=
  s.toList.map fun link => (link.1, .string link.2)

theorem finite_toJson (s : LinkSet) : s.toJson.finite = .object s.members := by
  rw [toJson, finite, finiteFields_eq_map, List.map_map]
  rfl

theorem distinctKeys_members (s : LinkSet) : DistinctKeys s.members := by
  rw [DistinctKeys, members, List.map_map]
  exact s.nodup

end LinkSet

namespace Links

/-! ## Items -/

/-- What is read of an item: its own fields, then its links under one more key. The links are
distinct, and so are the keys of the item unless its own fields repeat one or have that of the links
already. -/
structure ReadsItem (own : Fields) (links : LinkSet) (fields : Fields) : Prop where
  fields_eq : fields = finiteFields own ++ [("_links", .object links.members)]
  distinct_links : DistinctKeys links.members
  distinct_iff : DistinctKeys fields ↔ DistinctKeys own ∧ "_links" ∉ own.map Prod.fst

theorem finite_linked (own : Fields) (links : LinkSet) : (linked own links).finite =
    .object (finiteFields own ++ [("_links", .object links.members)]) := by
  rw [linked, finite, finiteFields_eq_map, finiteFields_eq_map, List.map_append]
  simp [links.finite_toJson]

theorem readsItem (own : Fields) (links : LinkSet) :
    ReadsItem own links (finiteFields own ++ [("_links", .object links.members)]) := by
  refine ⟨rfl, links.distinctKeys_members, ?_⟩
  have hkeys : (finiteFields own ++ [("_links", Json.object links.members)]).map Prod.fst =
      own.map Prod.fst ++ ["_links"] := by
    simp [finiteFields_eq_map, Function.comp_def]
  rw [DistinctKeys, DistinctKeys, hkeys, ← List.concat_eq_append, List.nodup_concat, and_comm]

/-! ## Pages -/

variable {α : Type} (idOf : α → String) {fieldsOf : α → Fields}

/-- The links of an item on the page of an address. -/
def ofItemAt (fullUrl : String) (templates : Templates) (x : α) : LinkSet :=
  ofItem (stripQuery fullUrl) (idOf x) templates

/-- What a reader finds in a page: the items in order, the numbers of the page and its links. -/
theorem finite_envelope (page : Page α) (fullUrl : String) (extra templates : Templates) :
    (envelope idOf fieldsOf page fullUrl extra templates).finite = .object
      [("items", .array (page.items.map fun x => .object (finiteFields (fieldsOf x) ++
          [("_links", .object (ofItemAt idOf fullUrl templates x).members)]))),
        ("page", .nat page.descriptor.page.toNat),
        ("pageSize", .nat page.descriptor.pageSize.toNat),
        ("totalCount", .nat page.descriptor.totalCount.toNat),
        ("totalPages", .nat page.descriptor.totalPages.toNat),
        ("_links", .object (ofCollection page.descriptor fullUrl extra).members)] := by
  have hitems : (Json.array (page.items.map fun x =>
      linked (fieldsOf x) (ofItemAt idOf fullUrl templates x))).finite =
      .array (page.items.map fun x => .object (finiteFields (fieldsOf x) ++
        [("_links", .object (ofItemAt idOf fullUrl templates x).members)])) := by
    rw [finite, finiteItems_eq_map, List.map_map]
    simp [finite_linked]
  rw [← hitems, ← LinkSet.finite_toJson]
  rfl

/-- The text of a page reads as all of the page, and of the keys that the envelope adds none is
repeated, unless an item has the key of its links already. -/
theorem envelope_lossless {page : Page α} {depth : Nat} (hdepth : 0 < depth)
    (h : ∀ x ∈ page.items, FieldsFit (fieldsOf x) depth) (fullUrl : String)
    (extra templates : Templates) :
    ∃ items : List Fields,
      parseWithin? (depth + 3) (envelope idOf fieldsOf page fullUrl extra templates).render =
        some (.object
          [("items", .array (items.map .object)),
            ("page", .nat page.descriptor.page.toNat),
            ("pageSize", .nat page.descriptor.pageSize.toNat),
            ("totalCount", .nat page.descriptor.totalCount.toNat),
            ("totalPages", .nat page.descriptor.totalPages.toNat),
            ("_links", .object (ofCollection page.descriptor fullUrl extra).members)]) ∧
      DistinctKeys (ofCollection page.descriptor fullUrl extra).members ∧
      List.Forall₂ (fun x fields => ReadsItem (fieldsOf x)
        (ofItem (stripQuery fullUrl) (idOf x) templates) fields) page.items items := by
  refine ⟨page.items.map fun x => finiteFields (fieldsOf x) ++
    [("_links", .object (ofItemAt idOf fullUrl templates x).members)], ?_,
    LinkSet.distinctKeys_members _, ?_⟩
  · rw [parseWithin?_render (fits_envelope_of_mem idOf hdepth h fullUrl extra templates),
      finite_envelope, List.map_map]
    rfl
  · rw [List.forall₂_map_right_iff]
    exact List.forall₂_same.2 fun x _ => readsItem _ _

/-- A page of two items, one of which has keys that the envelope has as well. -/
def crowdedPage : Page (String × Fields) where
  items := [("7", [("page", .object [("_links", .array [.int (-1), .bool true])]), ("", .null)]),
    ("8", [])]
  descriptor := ⟨1, 10, 2⟩

/-- Templates of which one has the name of a generated link. -/
def crowdedTemplates : Templates :=
  .ofList [("self", "/elsewhere"), ("up", "/")]

/-- Keys of the envelope in an item, and the key of the links further inside it, do no harm. -/
theorem envelope_lossless_sample :
    (0 < 124 ∧ ∀ x ∈ crowdedPage.items, FieldsFit x.2 124) ∧
    ∃ first second links, parse? (envelope Prod.fst Prod.snd crowdedPage "/movies?page=1" .empty
        crowdedTemplates).render = some (.object
      [("items", .array [.object first, .object second]), ("page", .nat 1), ("pageSize", .nat 10),
        ("totalCount", .nat 2), ("totalPages", .nat 1), ("_links", .object links)]) ∧
      DistinctKeys links ∧ DistinctKeys first ∧ DistinctKeys second ∧
      first = [("page", .object [("_links", .array [.int (-1), .bool true])]), ("", .null),
        ("_links", .object [("self", .string "/movies/7"), ("collection", .string "/movies"),
          ("up", .string "/")])] := by
  have hfits : ∀ x ∈ crowdedPage.items, FieldsFit x.2 124 := by
    simp [crowdedPage, FieldsFit, Fits, ItemsFit, Json.int, JsonNumber.Readable]
  obtain ⟨items, hread, hlinks, hitems⟩ := envelope_lossless Prod.fst (show 0 < 124 by decide)
    hfits "/movies?page=1" .empty crowdedTemplates
  obtain ⟨first, _, hfirst, hrest, rfl⟩ := List.forall₂_cons_left_iff.1 hitems
  obtain ⟨second, _, hsecond, hnone, rfl⟩ := List.forall₂_cons_left_iff.1 hrest
  cases hnone
  refine ⟨⟨by decide, hfits⟩, first, second, _, ?read, hlinks,
    hfirst.distinct_iff.2 (by decide), hsecond.distinct_iff.2 (by decide), ?fields⟩
  case read =>
    -- both sides name one reader, so that the text itself is not read here
    rw [parse?_eq_parseWithin?]
    exact hread
  case fields =>
    have hup : Template.expand "/" "/movies" "7" = "/" := Template.expand_of_not_mem (by decide) _ _
    have hmembers : (ofItem (stripQuery "/movies?page=1") "7" crowdedTemplates).members =
        [("self", .string "/movies/7"), ("collection", .string "/movies"),
          ("up", .string (Template.expand "/" "/movies" "7"))] := rfl
    rw [hfirst.fields_eq, hmembers, hup]
    rfl

/-- A page of one item, whose own field has the key of its links. -/
def labelledPage : Page Fields where
  items := [[("_links", .nat 1)]]
  descriptor := ⟨1, 10, 1⟩

/-- Such an item has the key twice in the text of its page. -/
theorem exists_repeated_key :
    (∀ own ∈ labelledPage.items, FieldsFit own 124 ∧ DistinctKeys own) ∧ ∃ fields rest,
      parse? (envelope (fun _ => "7") id labelledPage "/movies" .empty .empty).render =
        some (.object (("items", .array [.object fields]) :: rest)) ∧ ¬ DistinctKeys fields := by
  have hfits : ∀ own ∈ labelledPage.items, FieldsFit own 124 := by
    simp [labelledPage, FieldsFit, Fits, Json.nat, JsonNumber.Readable]
  have hdistinct : ∀ own ∈ labelledPage.items, DistinctKeys own := by
    simp [labelledPage, DistinctKeys]
  have hread := parse?_render (fits_envelope_of_mem (fun _ => "7") (show 0 < 124 by decide) hfits
    "/movies" .empty .empty)
  rw [finite_envelope] at hread
  exact ⟨fun own hown => ⟨hfits own hown, hdistinct own hown⟩, _, _, hread, by decide⟩

end Links

end Catalog
