import Catalog.Http.Response
import Catalog.Json.Decode
import Catalog.Query.Error

/-!
# Problems

Error answers as documents with a type, a title, a status and a detail. The type is derived from the
code.
-/

namespace Catalog

/-- A description of an error for clients. -/
structure Problem where
  /-- Address of the kind of problem. -/
  typeUrl : String := "about:blank"
  /-- Short summary of the kind. -/
  title : String
  /-- Status code. -/
  status : Nat
  /-- Explanation of this occurrence. -/
  detail : String
  /-- Where it occurred. -/
  instancePath : String := ""
  /-- Code for programs. -/
  code : String := ""
  /-- The query parameter at fault. -/
  parameter : Option String := none
deriving DecidableEq, Repr

namespace Problem

/-- The address under which problem types are found. -/
def typeBase : String := "https://errors.catalog.local"

/-- Set the code, and the type with it. -/
def withCode (p : Problem) (code : String) : Problem :=
  { p with code, typeUrl := typeBase ++ "/" ++ code }

/-- Say where the problem occurred. -/
def withInstance (p : Problem) (path : String) : Problem :=
  { p with instancePath := path }

/-- Name the parameter at fault. -/
def withParameter (p : Problem) (name : String) : Problem :=
  { p with parameter := some name }

/-- A status code that a response can have. -/
def isStatus (n : Int) : Bool :=
  100 ≤ n && n ≤ 999

/-- The fields of the document in order. -/
def toJson (p : Problem) : Json :=
  .object
    ([("type", .string p.typeUrl), ("title", .string p.title), ("status", Json.nat p.status),
      ("detail", .string p.detail), ("instance", .string p.instancePath), ("code", .string p.code)]
      ++ match p.parameter with
        | some name => [("parameter", .string name)]
        | none => [])

/-- The shape of the document. -/
def shape : Json.RecordShape where
  name := "Problem"
  fields :=
    [("type", Json.Decoder.string.check), ("title", Json.Decoder.string.check),
      ("status", Json.Decoder.uint16.check), ("detail", Json.Decoder.string.check),
      ("instance", Json.Decoder.string.check), ("code", Json.Decoder.string.check),
      ("parameter", Json.Decoder.string.nullable.check)]

/-- Read a document. -/
def decode (j : Json) : Except Json.DecodeError Problem := do
  let r ← shape.open j
  let typeUrl ← r.required "type" .string
  let title ← r.required "title" .string
  let status ← r.required "status" .uint16
  let detail ← r.required "detail" .string
  let instancePath ← r.required "instance" .string
  let code ← r.required "code" .string
  let parameter ← r.nullable "parameter" .string
  r.close ⟨typeUrl, title, status.toNat, detail, instancePath, code, parameter⟩

/-- The answer that carries a problem. A status that no response can have becomes 500; the document
keeps it. -/
def toResponse (p : Problem) : Response where
  status := if isStatus p.status then p.status else 500
  contentType := some "application/problem+json"
  body := p.toJson.render

/-- The problem of a request that cannot be read. -/
def badRequest (code detail : String) : Problem :=
  withCode { title := "Bad Request", status := 400, detail } code

/-- The problem of a query that is refused: 422 if a page parameter is at fault, and 400 otherwise. -/
def ofQueryError (e : QueryError) (path : String) : Problem :=
  let detail := e.message
  let p : Problem := match e with
    | .invalidField _ => { title := "Invalid Field", status := 400, detail }
    | .unsupportedType _ _ => { title := "Unsupported Field Type", status := 400, detail }
    | .invalidValue _ _ _ => { title := "Invalid Value", status := 400, detail }
    | .invalidPage =>
      { title := "Invalid Page", status := 422, detail, parameter := some "page" }
    | .invalidPageSize =>
      { title := "Invalid Page Size", status := 422, detail, parameter := some "pageSize" }
  (p.withCode e.code).withInstance path

end Problem

end Catalog
