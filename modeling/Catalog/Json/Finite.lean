import Catalog.Json.Basic

/-!
# Finite numbers

JSON has no text for infinity or for what is no number: null takes their place.
-/

namespace Catalog.Json

mutual

/-- Replace the doubles that are not finite by null. -/
def finite : Json → Json
  | .number (.double x) => if x.isFinite then .number (.double x) else .null
  | .array items => .array (finiteItems items)
  | .object fields => .object (finiteFields fields)
  | .null => .null
  | .bool b => .bool b
  | .number (.int n) => .number (.int n)
  | .string s => .string s

/-- Make the items of a list finite. -/
def finiteItems : List Json → List Json
  | [] => []
  | item :: items => finite item :: finiteItems items

/-- Make the fields of an object finite. -/
def finiteFields : Fields → Fields
  | [] => []
  | (key, value) :: fields => (key, finite value) :: finiteFields fields

end

end Catalog.Json
