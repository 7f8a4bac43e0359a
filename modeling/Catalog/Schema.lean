import Catalog.SortedMap
import Catalog.Text.Ascii
import Catalog.Text.Blank
import Catalog.Text.Split

/-!
# Schemas

A schema declares the queryable fields of a record type, each with a scalar type or a list of
scalars. Types are written as tags: the name of a scalar, or that name between angle brackets
after the word `array`, in any case of letters and with blanks around names.
-/

namespace Catalog

/-- The type of a single value. `boolean` and `object` can be declared but not filtered by. -/
inductive ScalarType where
  /-- Text, matched by a pattern. -/
  | string
  /-- An integer of 64 bits. -/
  | integer
  /-- A double. -/
  | float
  /-- A double too; a second name for it. -/
  | number
  /-- A date or a timestamp. -/
  | date
  /-- A truth value. -/
  | boolean
  /-- A nested document. -/
  | object
deriving DecidableEq, Repr

/-- The declared type of a field. -/
inductive FieldType where
  /-- One value. -/
  | scalar (type : ScalarType)
  /-- A list of values. -/
  | arrayOf (element : ScalarType)
deriving DecidableEq, Repr

/-- A tag that names no type; it is kept as given. -/
structure UnknownTypeTag where
  /-- The tag as given. -/
  tag : String
deriving DecidableEq, Repr

/-- The wording of the error. -/
def UnknownTypeTag.message (e : UnknownTypeTag) : String :=
  "unknown field type tag: '" ++ e.tag ++ "'"

namespace ScalarType

/-- The name of a type. -/
def name : ScalarType → String
  | string => "string"
  | integer => "integer"
  | float => "float"
  | number => "number"
  | date => "date"
  | boolean => "boolean"
  | object => "object"

/-- All types. -/
def all : List ScalarType := [string, integer, float, number, date, boolean, object]

/-- The type of exactly this name. -/
def ofName? (cs : List Char) : Option ScalarType :=
  all.find? fun t => t.name.toList == cs

/-- The type of a tag, up to blanks around it and the case of its letters. -/
def ofTag? (cs : List Char) : Option ScalarType :=
  ofName? (Text.lowerAscii (Text.trim cs))

/-- Read a tag. -/
def ofTag (tag : String) : Except UnknownTypeTag ScalarType :=
  match ofTag? tag.toList with
  | some t => .ok t
  | none => .error ⟨tag⟩

end ScalarType

namespace FieldType

/-- The canonical tag of a type. -/
def tag : FieldType → String
  | scalar t => t.name
  | arrayOf t => "array<" ++ t.name ++ ">"

/-- Whether the field holds a list. -/
def isArray : FieldType → Bool
  | scalar _ => false
  | arrayOf _ => true

/-- The text between `array<` and `>`. -/
def elementTag? (cs : List Char) : Option (List Char) :=
  (Text.dropLead? "array<".toList cs).bind (Text.dropTail? [ '>' ])

/-- The type of a tag, up to blanks and the case of its letters. -/
def ofTag? (cs : List Char) : Option FieldType :=
  let word := Text.lowerAscii (Text.trim cs)
  match elementTag? word with
  | some inner => (ScalarType.ofTag? inner).map arrayOf
  | none => (ScalarType.ofName? word).map scalar

/-- Read a tag. -/
def ofTag (tag : String) : Except UnknownTypeTag FieldType :=
  match ofTag? tag.toList with
  | some t => .ok t
  | none => .error ⟨tag⟩

end FieldType

/-- The queryable fields of a record type. -/
abbrev Schema := SortedMap FieldType

/-- Build a schema from names and tags; the first tag that names no type is the error. -/
def Schema.ofTags (tags : List (String × String)) : Except UnknownTypeTag Schema :=
  tags.foldlM (fun schema (name, tag) => do
    pure (schema.insert name (← FieldType.ofTag tag))) SortedMap.empty

end Catalog
