import Catalog.Document
import Catalog.Json.Decode
import Catalog.Json.Finite
import Catalog.Time.Reader

/-!
# Movies

The records of the catalog, their JSON form, and the document that queries look at. The names of
the fields are those of the movie schema.
-/

namespace Catalog

/-- What a movie has won. -/
structure Awards where
  /-- Prizes won. -/
  wins : UInt32 := 0
  /-- Nominations. -/
  nominations : UInt32 := 0
  /-- A summary. -/
  text : String := ""
deriving DecidableEq

/-- A movie. -/
structure Movie where
  /-- Its identifier. -/
  id : String
  /-- Its title. -/
  title : String
  /-- A summary of the plot. -/
  plot : String
  /-- The year it came out. -/
  year : Int64
  /-- Minutes it runs. -/
  runtime : Int64
  /-- Its rating. -/
  rating : Binary64
  /-- When it was released. -/
  released : Instant
  /-- Genres. -/
  genres : List String
  /-- Actors. -/
  cast : List String
  /-- Directors. -/
  directors : List String
  /-- Languages. -/
  languages : List String
  /-- Awards. -/
  awards : Awards
deriving DecidableEq

/-! ## JSON form -/

/-- A list of texts as a value. -/
def Json.texts (items : List String) : Json :=
  .array (items.map .string)

/-- The JSON form of awards. -/
def Awards.toJson (a : Awards) : Json :=
  .object [("wins", Json.nat a.wins.toNat), ("nominations", Json.nat a.nominations.toNat),
    ("text", .string a.text)]

namespace Movie

/-- The fields of a movie in their usual order. -/
def fields (m : Movie) : Json.Fields :=
  [("id", .string m.id), ("title", .string m.title), ("plot", .string m.plot),
    ("year", Json.int m.year.toInt), ("runtime", Json.int m.runtime.toInt),
    ("imdb_rating", Json.double m.rating), ("released", .string m.released.render),
    ("genres", Json.texts m.genres), ("cast", Json.texts m.cast),
    ("directors", Json.texts m.directors), ("languages", Json.texts m.languages),
    ("awards", m.awards.toJson)]

/-- The JSON form of a movie. -/
def toJson (m : Movie) : Json := .object m.fields

/-- The document of a movie that queries look at: its fields with their names in order, and null in
the place of a rating that is no number. -/
def document (m : Movie) : Document :=
  Json.canonicalFields [] (Json.finiteFields m.fields)

end Movie

/-! ## Reading -/

/-- Read the timestamp of a stored movie. -/
def Json.Decoder.instant : Json.Decoder Instant
  | .string s =>
    match Instant.readStored s.toList with
    | .ok t => .ok t
    | .error e => .error (.unreadable e.message)
  | j => .error (.invalidType j "an RFC 3339 formatted date and time string")

/-- A list of texts. -/
def Json.Decoder.texts : Json.Decoder (List String) :=
  Json.Decoder.list .string

/-- The shape of awards. -/
def Awards.shape : Json.RecordShape where
  name := "AwardsEntity"
  fields :=
    [("wins", Json.Decoder.uint32.check), ("nominations", Json.Decoder.uint32.check),
      ("text", Json.Decoder.string.check)]

/-- Read awards. -/
def Awards.decode : Json.Decoder Awards := fun j => do
  let r ← Awards.shape.open j
  let wins ← r.optional "wins" .uint32 0
  let nominations ← r.optional "nominations" .uint32 0
  let text ← r.optional "text" .string ""
  r.close ⟨wins, nominations, text⟩

/-- The shape of a stored movie. -/
def Movie.shape : Json.RecordShape where
  name := "MovieEntity"
  fields :=
    [("id", Json.Decoder.string.check), ("title", Json.Decoder.string.check),
      ("plot", Json.Decoder.string.check), ("year", Json.Decoder.int64.check),
      ("runtime", Json.Decoder.int64.check), ("imdb_rating", Json.Decoder.binary64.check),
      ("released", Json.Decoder.instant.check), ("genres", Json.Decoder.texts.check),
      ("cast", Json.Decoder.texts.check), ("directors", Json.Decoder.texts.check),
      ("languages", Json.Decoder.texts.check), ("awards", Awards.decode.check)]

/-- Read a stored movie. -/
def Movie.decode : Json.Decoder Movie := fun j => do
  let r ← Movie.shape.open j
  let id ← r.required "id" .string
  let title ← r.required "title" .string
  let plot ← r.optional "plot" .string ""
  let year ← r.required "year" .int64
  let runtime ← r.optional "runtime" .int64 0
  let rating ← r.optional "imdb_rating" .binary64 (Binary64.ofInt 0)
  let released ← r.required "released" .instant
  let genres ← r.optional "genres" .texts []
  let cast ← r.optional "cast" .texts []
  let directors ← r.optional "directors" .texts []
  let languages ← r.optional "languages" .texts []
  let awards ← r.optional "awards" Awards.decode {}
  r.close { id, title, plot, year, runtime, rating, released, genres, cast, directors, languages, awards }

/-- The fields of movies that queries may name. -/
def Movie.schema : Schema :=
  SortedMap.ofList
    [("title", .scalar .string), ("plot", .scalar .string), ("year", .scalar .integer),
      ("runtime", .scalar .integer), ("imdb_rating", .scalar .float),
      ("released", .scalar .date), ("genres", .arrayOf .string), ("cast", .arrayOf .string),
      ("directors", .arrayOf .string), ("languages", .arrayOf .string),
      ("awards", .scalar .object)]

end Catalog
