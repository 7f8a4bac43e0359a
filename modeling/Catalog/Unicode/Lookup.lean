import Catalog.Numeral
import Catalog.Text.Split
import Catalog.Unicode.CaseOrbit
import Catalog.Unicode.Category
import Catalog.Unicode.Property
import Catalog.Unicode.RangeSet
import Catalog.Unicode.Script
import Catalog.Unicode.ScriptExtension

/-!
# Looking up properties of characters

Sets of characters by the name of a property, category or script, with loose matching of names:
case, blanks, dashes, underscores and a leading `is` do not count.
-/

namespace Catalog.Unicode

/-- Decode ranges from distances and counts. -/
def decodeRanges : (last : Nat) → List Nat → RangeSet
  | last, gap :: more :: rest =>
    (last + gap, last + gap + more) :: decodeRanges (last + gap + more) rest
  | _, _ => []

/-- The ranges of a table entry. -/
def rangesOf (lines : List String) : RangeSet :=
  decodeRanges 0 (lines.flatMap fun line =>
    (Text.splitOn ' ' line.toList).map Numeral.ofDigits)

/-- The ranges listed in a table under a name. -/
def find? (table : List (List String × List String)) (name : String) : Option RangeSet :=
  (table.find? fun entry => entry.1.contains name).map fun entry => rangesOf entry.2

/-- The union of the ranges of several categories. -/
def categoriesOf (names : List String) : RangeSet :=
  RangeSet.normalize (names.flatMap fun name => (find? categories name).getD [])

/-- Categories made of others. -/
def categoryGroups : List (List String × List String) :=
  [ (["l", "letter"], ["lu", "ll", "lt", "lm", "lo"])
  , (["lc", "casedletter"], ["lu", "ll", "lt"])
  , (["m", "mark", "combiningmark"], ["mn", "mc", "me"])
  , (["n", "number"], ["nd", "nl", "no"])
  , (["p", "punctuation", "punct"], ["pc", "pd", "ps", "pe", "pi", "pf", "po"])
  , (["s", "symbol"], ["sm", "sc", "sk", "so"])
  , (["z", "separator"], ["zs", "zl", "zp"]) ]

/-- The characters that no category lists. -/
def unassigned : RangeSet :=
  RangeSet.complement RangeSet.maxCodePoint
    (RangeSet.normalize ((0xD800, 0xDFFF) :: categories.flatMap fun entry => rangesOf entry.2))

/-- The characters of a general category. -/
def category? (name : String) : Option RangeSet :=
  if name = "any" then some [(0, RangeSet.maxCodePoint)]
  else if name = "ascii" then some [(0, 0x7F)]
  else if name = "assigned" then
    some (RangeSet.complement RangeSet.maxCodePoint unassigned)
  else if name = "cn" ∨ name = "unassigned" then some unassigned
  else if name = "c" ∨ name = "other" then
    some (RangeSet.union unassigned (categoriesOf ["cc", "cf", "co"]))
  else match categoryGroups.find? fun entry => entry.1.contains name with
    | some entry => some (categoriesOf entry.2)
    | none => find? categories name

/-- The characters of a script. -/
def script? (name : String) : Option RangeSet :=
  find? scripts name

/-- The characters used with a script. -/
def scriptExtension? (name : String) : Option RangeSet :=
  match find? scriptExtensions name with
  | some set => some set
  | none => find? scripts name

/-- Lower a name, dropping separators and everything outside ASCII. -/
def squeeze (cs : List Char) : List Char :=
  Text.lowerAscii (cs.filter fun c => c != ' ' && c != '_' && c != '-' && c.toNat < 0x80)

/-- The form of a name in which names are compared. -/
def looseName (cs : List Char) : String :=
  match cs with
  | a :: b :: rest =>
    if (a = 'i' ∨ a = 'I') ∧ (b = 's' ∨ b = 'S') then
      if squeeze rest = ['c'] then "isc" else String.ofList (squeeze rest)
    else String.ofList (squeeze cs)
  | cs => String.ofList (squeeze cs)

/-- The characters of a single name: a binary property, a general category or a script. Three
short names are read as categories first. -/
def byName? (cs : List Char) : Option RangeSet :=
  let name := looseName cs
  let property := if name = "cf" ∨ name = "sc" ∨ name = "lc" then none else find? properties name
  (property.orElse fun _ => category? name).orElse fun _ => script? name

/-- The characters whose property has a value. -/
def byValue? (property value : List Char) : Option RangeSet :=
  let value := looseName value
  match looseName property with
  | "gc" | "generalcategory" => category? value
  | "sc" | "script" => script? value
  | "scx" | "scriptextensions" => scriptExtension? value
  | _ => none

/-- Decimal digits of every script. -/
def digits : RangeSet := (find? categories "nd").getD []

/-- The characters of words: letters, marks, digits, connectors and joiners. -/
def wordCharacters : RangeSet :=
  RangeSet.normalize ((find? properties "alphabetic").getD [] ++
    categoriesOf ["mn", "mc", "me", "nd", "pc"] ++ (find? properties "joincontrol").getD [])

/-- Blanks. -/
def whiteSpace : RangeSet := (find? properties "whitespace").getD []

/-- Letters in the wide sense, with vowel signs and letter-like numbers. -/
def alphabetic : RangeSet := (find? properties "alphabetic").getD []

/-- Characters that stand for numbers. -/
def numeric : RangeSet := categoriesOf ["nd", "nl", "no"]

/-- Decode the table of case orbits. -/
def decodeOrbits : (last : Nat) → List (List Nat) → List (List Nat)
  | last, (gap :: steps) :: rest =>
    let first := last + gap
    steps.foldl (fun orbit step => orbit ++ [orbit.getLast?.getD 0 + step]) [first]
      :: decodeOrbits first rest
  | _, _ => []

/-- The sets of characters that agree under simple case folding, by their first characters. -/
def orbits : List (List Nat) :=
  decodeOrbits 0 (caseOrbits.flatMap fun line =>
    (Text.splitOn ' ' line.toList).map fun word => (Text.splitOn '+' word).map Numeral.ofDigits)

/-- Close a set under simple case folding. -/
def foldSet (set : RangeSet) : RangeSet :=
  let added := orbits.flatMap fun orbit =>
    if orbit.any fun n => set.contains n then orbit.map fun n => (n, n) else []
  RangeSet.union (RangeSet.normalize added) set

/-- The characters that agree with a character, itself among them, if there are others. -/
def orbit? (n : Nat) : Option (List Nat) :=
  orbits.find? fun orbit => orbit.contains n

end Catalog.Unicode
