import Catalog.Json.Printer

/-!
# Responses

The part of a response that clients see: status, the headers in use, and the body.
-/

namespace Catalog

/-- A response. -/
structure Response where
  /-- Status code. -/
  status : Nat
  /-- Kind of the body, if there is one. -/
  contentType : Option String := none
  /-- Methods that the address knows. -/
  allow : Option String := none
  /-- The text sent. -/
  body : String := ""
deriving DecidableEq, Repr

namespace Response

/-- A successful answer in JSON. -/
def json (value : Json) : Response where
  status := 200
  contentType := some "application/json"
  body := value.render

/-- An answer without a body. -/
def empty (status : Nat) : Response where
  status := status

end Response

end Catalog
