import Catalog.Binary64.Basic
import Catalog.SortedMap

/-!
# JSON values

Values with exact 64-bit integers beside doubles. An object is a list of fields; a *canonical*
object lists them in key order without repetition, which `Json.canonical` establishes: of
repeated keys the last value stays.
-/

namespace Catalog

/-- A JSON number: an integer within 64 bits, signed or not, or a double. -/
inductive JsonNumber where
  /-- An integer literal. -/
  | int (n : Int)
  /-- Any other number. -/
  | double (x : Binary64)
deriving DecidableEq, Inhabited

/-- The double nearest to a number. -/
def JsonNumber.toBinary64 : JsonNumber → Binary64
  | int n => Binary64.ofInt n
  | double x => x

/-- A JSON value. -/
inductive Json where
  /-- The value `null`. -/
  | null
  /-- A truth value. -/
  | bool (b : Bool)
  /-- A number. -/
  | number (n : JsonNumber)
  /-- A text. -/
  | string (s : String)
  /-- A list of values. -/
  | array (items : List Json)
  /-- A list of named values. -/
  | object (fields : List (String × Json))
deriving Inhabited

/-- The fields of an object. -/
abbrev Json.Fields := List (String × Json)

namespace Json

/-- An integer as a value. -/
def int (n : Int) : Json := .number (.int n)

/-- A natural number as a value. -/
def nat (n : Nat) : Json := .number (.int n)

/-- A double as a value. -/
def double (x : Binary64) : Json := .number (.double x)

/-- A text, or `null`. -/
def stringOrNull : Option String → Json
  | some s => .string s
  | none => .null

/-- A map as an object. -/
def ofMap {α : Type} (m : SortedMap α) (f : α → Json) : Json :=
  .object (m.toList.map fun e => (e.1, f e.2))

mutual

/-- Sort the fields of every object inside; of repeated keys the last value stays. -/
def canonical : Json → Json
  | .array items => .array (canonicalItems items)
  | .object fields => .object (canonicalFields [] fields)
  | j => j

/-- Sort the fields inside every item. -/
def canonicalItems : List Json → List Json
  | [] => []
  | item :: items => canonical item :: canonicalItems items

/-- Put fields one after the other into an ordered list. -/
def canonicalFields (acc : Fields) : Fields → Fields
  | [] => acc
  | (key, value) :: fields =>
    canonicalFields (SortedMap.insertEntry key (canonical value) acc) fields

end

/-- The value of a field of an object. -/
def get? (j : Json) (key : String) : Option Json :=
  match j with
  | .object fields => fields.lookup key
  | _ => none

/-- The text of a string value. -/
def string? : Json → Option String
  | .string s => some s
  | _ => none

/-- The items of an array. -/
def items? : Json → Option (List Json)
  | .array items => some items
  | _ => none

end Json

end Catalog
