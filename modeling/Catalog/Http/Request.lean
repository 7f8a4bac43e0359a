import Catalog.Http.Target

/-!
# Requests

A request is its method, its target and the identifier that the client gave it. Methods and header
names are tokens; header values hold no control characters but the tab.
-/

namespace Catalog

/-- Why a request cannot be made. -/
inductive RequestError where
  /-- The method is no token. -/
  | invalidMethod
  /-- The target is ill-formed. -/
  | invalidTarget (cause : TargetError)
  /-- A header name is no token. -/
  | invalidHeaderName
  /-- A header value holds a character that no value holds. -/
  | invalidHeaderValue
deriving DecidableEq, Repr

/-- The wording of each cause. -/
def RequestError.message : RequestError → String
  | invalidMethod => "invalid HTTP method"
  | invalidTarget cause => cause.message
  | invalidHeaderName => "invalid HTTP header name"
  | invalidHeaderValue => "failed to parse header value"

/-- A request without a body. -/
structure Request where
  /-- The method. -/
  method : String
  /-- What is asked for. -/
  target : RequestTarget
  /-- The identifier that the client gave to the request. -/
  requestId : Option String

namespace Request

/-- A character of a token. -/
def isTokenChar (c : Char) : Bool :=
  Text.isAsciiLetter c || Text.isAsciiDigit c || "!#$%&'*+-.^_\x60|~".toList.contains c

/-- A text of at least one character, all of which tokens hold. -/
def isToken (s : String) : Bool :=
  !s.isEmpty && s.toList.all isTokenChar

/-- The greatest number of characters in a header name. -/
def maxHeaderName : Nat := 65535

/-- A character of a header value. -/
def isValueChar (c : Char) : Bool :=
  (0x20 ≤ c.toNat && c.toNat != 0x7F) || c == '\t'

/-- Refuse a header whose name or value is ill-formed. -/
def checkHeader (header : String × String) : Except RequestError Unit :=
  if !isToken header.1 || maxHeaderName < header.1.length then .error .invalidHeaderName
  else if !header.2.toList.all isValueChar then .error .invalidHeaderValue
  else .ok ()

/-- Make a request. Faults are looked for in the method, in the target and then in the headers, in
order. -/
def create (method target : String) (headers : List (String × String)) :
    Except RequestError Request := do
  if !isToken method then throw .invalidMethod
  let target ← (RequestTarget.parse target).mapError .invalidTarget
  headers.forM checkHeader
  let id := headers.find? fun h => Text.sameIgnoringCase h.1.toList "x-request-id".toList
  pure ⟨method, target, id.map (·.2)⟩

end Request

end Catalog
