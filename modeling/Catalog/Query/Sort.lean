import Catalog.Query.Error

/-!
# Sort specifications

A list of fields with directions, most significant first. Setting a field that is already there
changes its direction and keeps its place.
-/

namespace Catalog

/-- The direction of a sort key. -/
inductive Direction where
  /-- Ascending. -/
  | asc
  /-- Descending. -/
  | desc
deriving DecidableEq, Repr

namespace Direction

/-- The word `asc`, in any case of letters, is ascending; every other one descending. -/
def ofWord (word : List Char) : Direction :=
  if Text.sameIgnoringCase word ['a', 's', 'c'] then asc else desc

/-- The word of a direction. -/
def word : Direction → String
  | asc => "asc"
  | desc => "desc"

/-- One for ascending, minus one for descending. -/
def sign : Direction → Int
  | asc => 1
  | desc => -1

/-- Apply a direction to a comparison. -/
def apply : Direction → Ordering → Ordering
  | asc, o => o
  | desc, o => o.swap

/-- The opposite direction. -/
def flip : Direction → Direction
  | asc => desc
  | desc => asc

end Direction

/-- A field with the direction to sort it by. -/
structure SortKey where
  /-- The field. -/
  field : String
  /-- Its direction. -/
  direction : Direction
deriving DecidableEq, Repr

/-- Sort keys, most significant first. -/
abbrev SortSpec := List SortKey

namespace SortSpec

/-- Set the direction of a field, in place if the field is there and at the end if not. -/
def set (field : String) (direction : Direction) : SortSpec → SortSpec
  | [] => [⟨field, direction⟩]
  | key :: keys =>
    if key.field = field then ⟨field, direction⟩ :: keys
    else key :: set field direction keys

/-- The field and the direction of a clause: the texts before the first colon, and between the
first and the second one. -/
def clauseKey (clause : List Char) : SortKey :=
  match Text.splitOn ':' clause with
  | [] => ⟨"", .desc⟩
  | [field] => ⟨String.ofList field, .desc⟩
  | field :: word :: _ => ⟨String.ofList field, Direction.ofWord word⟩

/-- The keys of the clauses between commas, in order; blank clauses are left out. -/
def clauseKeys (expression : List Char) : List SortKey :=
  ((Text.splitOn ',' expression).filter fun clause => !clause.all Text.isBlank).map clauseKey

/-- Set keys one after the other. -/
def setAll (keys : List SortKey) (spec : SortSpec) : SortSpec :=
  keys.foldl (fun spec key => set key.field key.direction spec) spec

/-- Compile a sort expression. An absent or empty one stands for the default. -/
def compile (expression : Option String) (default : SortSpec) : SortSpec :=
  match expression with
  | none => default
  | some text => if text.isEmpty then default else setAll (clauseKeys text.toList) []

/-- The first key whose field the schema lacks makes the error. -/
def validate (schema : Schema) (spec : SortSpec) : Except QueryError Unit :=
  match spec.find? fun key => !schema.contains key.field with
  | some key => .error (.invalidField key.field)
  | none => .ok ()

/-- Write keys as an expression again. -/
def render (spec : SortSpec) : String :=
  String.intercalate "," (spec.map fun key => key.field ++ ":" ++ key.direction.word)

/-- Turn every direction round. -/
def flip (spec : SortSpec) : SortSpec :=
  spec.map fun key => ⟨key.field, key.direction.flip⟩

end SortSpec

end Catalog
