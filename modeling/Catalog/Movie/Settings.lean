import Catalog.Json.Decode
import Catalog.Query.Sort

/-!
# Settings of the movie catalog

Page sizes, default sort, fixtures and links, with their defaults. Unknown keys are refused.
-/

namespace Catalog

/-- Configured links. -/
structure LinkSettings where
  /-- Names of collections that resources link back to. -/
  knownCollections : List String := ["movies"]
  /-- Templates of links of collections. -/
  collection : SortedMap String := .empty
  /-- Templates of links of resources. -/
  resource : SortedMap String := .empty

/-- Settings of the movie catalog. -/
structure MovieSettings where
  /-- Items on a page when the client does not say. -/
  defaultPageSize : UInt64 := 20
  /-- Items on the largest page. -/
  maxPageSize : UInt64 := 100
  /-- Sort expression when the client gives none. -/
  defaultSort : String := "year:desc"
  /-- File of movies to start with. -/
  fixturesPath : Option String := none
  /-- What addresses in links start with. -/
  publicUrl : String := ""
  /-- Configured links. -/
  links : LinkSettings := {}

instance : Inhabited MovieSettings := ⟨{}⟩

namespace LinkSettings

/-- The shape of link settings. -/
def shape : Json.RecordShape where
  name := "LinksConfig"
  strict := true
  fields :=
    [("known_collections", (Json.Decoder.list .string).check),
      ("collection", (Json.Decoder.map .string).check),
      ("resource", (Json.Decoder.map .string).check)]

/-- Read link settings. -/
def decode : Json.Decoder LinkSettings := fun j => do
  let r ← shape.open j
  let known ← r.optional "known_collections" (.list .string) ["movies"]
  let collection ← r.optional "collection" (.map .string) .empty
  let resource ← r.optional "resource" (.map .string) .empty
  r.close ⟨known, collection, resource⟩

/-- The JSON form of link settings. -/
def toJson (s : LinkSettings) : Json :=
  .object [("known_collections", .array (s.knownCollections.map .string)),
    ("collection", Json.ofMap s.collection .string), ("resource", Json.ofMap s.resource .string)]

end LinkSettings

namespace MovieSettings

/-- The shape of movie settings. -/
def shape : Json.RecordShape where
  name := "MoviesConfig"
  strict := true
  fields :=
    [("default_page_size", Json.Decoder.uint64.check),
      ("max_page_size", Json.Decoder.uint64.check), ("default_sort", Json.Decoder.string.check),
      ("fixtures_path", Json.Decoder.string.nullable.check),
      ("public_url", Json.Decoder.string.check), ("links", LinkSettings.decode.check)]

/-- Read movie settings. -/
def decode : Json.Decoder MovieSettings := fun j => do
  let r ← shape.open j
  let defaultPageSize ← r.optional "default_page_size" .uint64 20
  let maxPageSize ← r.optional "max_page_size" .uint64 100
  let defaultSort ← r.optional "default_sort" .string "year:desc"
  let fixturesPath ← r.optional "fixtures_path" (.nullable .string) none
  let publicUrl ← r.optional "public_url" .string ""
  let links ← r.optional "links" LinkSettings.decode {}
  r.close { defaultPageSize, maxPageSize, defaultSort, fixturesPath, publicUrl, links }

/-- The JSON form of movie settings. -/
def toJson (s : MovieSettings) : Json :=
  .object [("default_page_size", Json.nat s.defaultPageSize.toNat),
    ("max_page_size", Json.nat s.maxPageSize.toNat), ("default_sort", .string s.defaultSort),
    ("fixtures_path", Json.stringOrNull s.fixturesPath), ("public_url", .string s.publicUrl),
    ("links", s.links.toJson)]

/-- The default sort as keys. -/
def defaultSortSpec (s : MovieSettings) : SortSpec :=
  SortSpec.compile (some s.defaultSort) []

/-- The file of movies to start with; a blank name is none. -/
def fixtures? (s : MovieSettings) : Option String :=
  s.fixturesPath.filter fun path => !Text.allBlank path

end MovieSettings

end Catalog
