import Catalog.Json.Basic
import Catalog.Binary64.Shortest
import Catalog.Text.Ascii

/-!
# Printing JSON

Compact text: no blanks, fields in the order of the value, quotes, backslashes and control
characters escaped, everything else as it is.
-/

namespace Catalog

/-- An integer in decimal. -/
def intText (n : Int) : List Char :=
  (if n < 0 then ['-'] else []) ++ Nat.toDigits 10 n.natAbs

/-- A number: integers in decimal, doubles by their shortest text. A double that is not finite
has no JSON form and is written as `null`. -/
def JsonNumber.render : JsonNumber → List Char
  | int n => intText n
  | double x => if x.isFinite then Binary64.jsonLayout.format x else ['n', 'u', 'l', 'l']

namespace Json

/-- A character inside a string literal. -/
def escape (c : Char) : List Char :=
  match c with
  | '"' => ['\\', '"']
  | '\\' => ['\\', '\\']
  | '\x08' => ['\\', 'b']
  | '\x0c' => ['\\', 'f']
  | '\n' => ['\\', 'n']
  | '\r' => ['\\', 'r']
  | '\t' => ['\\', 't']
  | c => if c.toNat < 0x20 then ['\\', 'u'] ++ Text.lowerHex 4 c.toNat else [c]

/-- A string literal. -/
def quote (s : String) : List Char :=
  '"' :: (s.toList.flatMap escape ++ ['"'])

mutual

/-- The compact text of a value. -/
def renderChars : Json → List Char
  | .null => ['n', 'u', 'l', 'l']
  | .bool true => ['t', 'r', 'u', 'e']
  | .bool false => ['f', 'a', 'l', 's', 'e']
  | .number n => n.render
  | .string s => quote s
  | .array items => '[' :: (renderItems items ++ [']'])
  | .object fields => '\x7b' :: (renderFields fields ++ ['\x7d'])

/-- The texts of items, with commas between them. -/
def renderItems : List Json → List Char
  | [] => []
  | [item] => renderChars item
  | item :: items => renderChars item ++ ',' :: renderItems items

/-- The texts of fields, with commas between them. -/
def renderFields : Fields → List Char
  | [] => []
  | [(key, value)] => quote key ++ ':' :: renderChars value
  | (key, value) :: fields => quote key ++ ':' :: (renderChars value ++ ',' :: renderFields fields)

end

/-- The compact text of a value. -/
def render (j : Json) : String :=
  String.ofList (renderChars j)

end Json

end Catalog
