import Catalog.Json.Basic

/-!
# The description of the interface

The OpenAPI document that the server hands out, with its keys in order.
-/

namespace Catalog.Description

/-- An object of its fields. -/
private def object (fields : List (String × Json)) : Json := .object fields

/-- The schema of a type. -/
private def typed (name : String) : Json := object [("type", .string name)]

/-- The schema of a type with a format. -/
private def formatted (format name : String) : Json :=
  object [("format", .string format), ("type", .string name)]

/-- The schema of an integer that is not negative. -/
private def unsigned (format : String) : Json :=
  object [("format", .string format), ("minimum", Json.int 0), ("type", .string "integer")]

/-- The schema of a list of texts. -/
private def textList : Json := object [("items", typed "string"), ("type", .string "array")]

/-- A reference to a named schema. -/
private def reference (name : String) : Json :=
  object [("$ref", .string ("#/components/schemas/" ++ name))]

/-- The names of required fields. -/
private def required (names : List String) : String × Json :=
  ("required", .array (names.map .string))

/-- Put a description in front of the fields of a schema. -/
private def described (text : String) (rest : List (String × Json)) : Json :=
  object (("description", .string text) :: rest)

/-- The schema of awards. -/
private def awards : Json :=
  object
    [("properties", object
        [("nominations", unsigned "int32"), ("text", typed "string"), ("wins", unsigned "int32")]),
      required ["wins", "nominations", "text"], ("type", .string "object")]

/-- The schema of a movie. -/
private def movie : Json :=
  described "REST DTO for movie representation"
    [("properties", object
        [("awards", reference "AwardsDto"), ("cast", textList), ("directors", textList),
          ("genres", textList), ("id", typed "string"),
          ("imdb_rating", formatted "double" "number"), ("languages", textList),
          ("plot", typed "string"), ("released", formatted "date-time" "string"),
          ("runtime", formatted "int64" "integer"), ("title", typed "string"),
          ("year", formatted "int64" "integer")]),
      required ["id", "title", "plot", "year", "runtime", "imdb_rating", "released", "genres",
        "cast", "directors", "languages", "awards"],
      ("type", .string "object")]

/-- The schema of a page position. -/
private def pageDescriptor : Json :=
  described "Position of a page inside a result set, as reported by the data-access layer."
    [("properties", object
        [("page", unsigned "int64"), ("pageSize", unsigned "int64"),
          ("totalCount", unsigned "int64")]),
      required ["page", "pageSize", "totalCount"], ("type", .string "object")]

/-- The schema of a problem. -/
private def problem : Json :=
  let text (about : String) : Json := described about [("type", .string "string")]
  described "RFC 9457 Problem Details for HTTP APIs"
    [("properties", object
        [("code", text "Machine-readable error code, e.g. `QUERY_INVALID_FIELD`."),
          ("detail", text "A human-readable explanation specific to this occurrence of the problem."),
          ("instance",
            text "A URI reference that identifies the specific occurrence of the problem."),
          ("parameter", described "Offending query parameter, when the problem comes from one."
            [("type", .array [.string "string", .string "null"])]),
          ("status", described "The HTTP status code for this occurrence of the problem."
            [("format", .string "int32"), ("minimum", Json.int 0), ("type", .string "integer")]),
          ("title", text "A short, human-readable summary of the problem type."),
          ("type", text "A URI reference that identifies the problem type.")]),
      required ["type", "title", "status", "detail", "instance", "code"],
      ("title", .string "Problem"), ("type", .string "object")]

/-- A parameter of an operation. -/
private def parameter (name place type : String) (isRequired : Bool) (about : String) : Json :=
  described about
    [("in", .string place), ("name", .string name), ("required", .bool isRequired),
      ("schema", typed type)]

/-- An answer with a body of a named schema. -/
private def answer (contentType schema about : String) : Json :=
  object
    [("content", object [(contentType, object [("schema", reference schema)])]),
      ("description", .string about)]

/-- An answer that is a problem. -/
private def problemAnswer (about : String) : Json :=
  answer "application/problem+json" "Problem" about

/-- An operation that reads. -/
private def reading (id summary : String) (parameters : List Json)
    (answers : List (String × Json)) : Json :=
  object [("get", object
    [("operationId", .string id), ("parameters", .array parameters), ("responses", object answers),
      ("summary", .string summary), ("tags", .array [.string "movies"])])]

/-- The operation that lists movies. -/
private def listing : Json :=
  reading "movies.list_movies" "List movies"
    [ parameter "filter" "query" "string" false
        ("Comma-separated `field:value` clauses, AND-combined. Array fields take `a|b` " ++
          "(all must be present).")
    , parameter "sort" "query" "string" false
        "Comma-separated `field:asc|desc` keys, most significant first"
    , parameter "page" "query" "integer" false "1-based page number"
    , parameter "pageSize" "query" "integer" false "Items per page" ]
    [ ("200", described "One page of movies with navigation links" [])
    , ("400", problemAnswer "Invalid filter or sort")
    , ("422", problemAnswer "Invalid page or pageSize") ]

/-- The operation that fetches a movie. -/
private def fetching : Json :=
  reading "movies.get_movie" "Get movie by id"
    [parameter "id" "path" "string" true "Movie id"]
    [("200", answer "application/json" "MovieDto" "Movie found"),
      ("404", problemAnswer "Not Found")]

/-- The whole document. -/
def document : Json :=
  object
    [ ("components", object [("schemas", object
        [("AwardsDto", awards), ("MovieDto", movie), ("PageDescriptor", pageDescriptor),
          ("Problem", problem)])])
    , ("info", object [("title", .string "Movie catalog"), ("version", .string "0.1.0")])
    , ("openapi", .string "3.1.0")
    , ("paths", object [("/movies", listing), ("/movies/\x7bid\x7d", fetching)]) ]

end Catalog.Description
