import Catalog.Text.Percent
import Catalog.Text.Split

/-!
# Query strings

Pairs of names and values joined by ampersands, with plus signs for spaces and percent encoding.
Bytes that are not UTF-8 become U+FFFD.
-/

namespace Catalog.Form

/-- Decode a name or a value. -/
def decode (cs : List Char) : String :=
  let spaced := cs.map fun c => if c = '+' then ' ' else c
  String.ofList (Text.decodeLossy (Percent.decode spaced))

/-- The pairs of a query, in order. A part without an equals sign is a name with an empty value. -/
def pairs (query : List Char) : List (String × String) :=
  ((Text.splitOn '&' query).filter fun part => !part.isEmpty).map fun part =>
    match Text.splitFirst? '=' part with
    | some (name, value) => (decode name, decode value)
    | none => (decode part, "")

end Catalog.Form
