import Catalog.Json.Decode
import Catalog.Query.Page
import Catalog.Query.Sort

/-!
# JSON forms of sorts and page positions

A sort key is a record of its field and the word of its direction; a page position a record of
three numbers.
-/

namespace Catalog

/-- The direction of exactly this word. -/
def Direction.decodeWord (word : String) : Except Json.DecodeError Direction :=
  if word = "asc" then .ok .asc
  else if word = "desc" then .ok .desc
  else .error (.unknownVariant word ["asc", "desc"])

/-- Read a direction: its word, or an object that maps its word to `null`. -/
def Direction.decode : Json.Decoder Direction
  | .string word => Direction.decodeWord word
  | .object [(word, value)] => do
    let direction ← Direction.decodeWord word
    match value with
    | .null => pure direction
    | other => throw (.invalidType other "unit")
  | .object fields => .error (.invalidValue (.object fields) "map with a single key")
  | j => .error (.invalidType j "string or map")

/-- The shape of a sort key. -/
def SortKey.shape : Json.RecordShape where
  name := "SortKey"
  fields := [("field", Json.Decoder.string.check), ("dir", Direction.decode.check)]

/-- Read a sort key. -/
def SortKey.decode : Json.Decoder SortKey := fun j => do
  let record ← SortKey.shape.open j
  let field ← record.required "field" Json.Decoder.string
  let direction ← record.required "dir" Direction.decode
  record.close ⟨field, direction⟩

/-- The JSON form of a sort key. -/
def SortKey.toJson (key : SortKey) : Json :=
  .object [("field", .string key.field), ("dir", .string key.direction.word)]

/-- Read a list of sort keys. -/
def SortSpec.decode : Json.Decoder SortSpec :=
  Json.Decoder.list SortKey.decode

/-- The JSON form of a list of sort keys. -/
def SortSpec.toJson (spec : SortSpec) : Json :=
  .array (spec.map SortKey.toJson)

/-- The shape of a page position. -/
def PageDescriptor.shape : Json.RecordShape where
  name := "PageDescriptor"
  fields :=
    [ ("page", Json.Decoder.uint64.check)
    , ("pageSize", Json.Decoder.uint64.check)
    , ("totalCount", Json.Decoder.uint64.check) ]

/-- Read a page position. -/
def PageDescriptor.decode : Json.Decoder PageDescriptor := fun j => do
  let record ← PageDescriptor.shape.open j
  let page ← record.required "page" Json.Decoder.uint64
  let pageSize ← record.required "pageSize" Json.Decoder.uint64
  let totalCount ← record.required "totalCount" Json.Decoder.uint64
  record.close ⟨page, pageSize, totalCount⟩

end Catalog
