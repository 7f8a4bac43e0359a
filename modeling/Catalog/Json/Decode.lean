import Catalog.Json.Printer
import Catalog.Text.Quoted

/-!
# Reading typed values out of JSON

Decoders for scalars, lists, maps and records. A record is an object, or an array that lists the
fields in declaration order. In an object the fields present are checked first, in the order in
which they stand; then the missing ones are reported in declaration order.
-/

namespace Catalog.Json

/-- Why a value does not have the shape asked for. -/
inductive DecodeError where
  /-- The value is of another kind. -/
  | invalidType (found : Json) (expected : String)
  /-- The value is of the right kind, but out of range. -/
  | invalidValue (found : Json) (expected : String)
  /-- An array has too few or too many items. -/
  | invalidLength (length : Nat) (expected : String)
  /-- A field without a default is absent. -/
  | missingField (name : String)
  /-- A field stands twice. -/
  | duplicateField (name : String)
  /-- A field that the record does not have. -/
  | unknownField (name : String)
  /-- A word that is none of those allowed. -/
  | unknownVariant (word : String) (allowed : List String)
  /-- A text that its own reader refuses. -/
  | unreadable (reason : String)

/-- A value as error messages name it. -/
def describe : Json → String
  | .null => "null"
  | .bool b => s!"boolean `{b}`"
  | .number (.int n) => s!"integer `{n}`"
  | .number (.double x) => "floating point `" ++ String.ofList (JsonNumber.double x).render ++ "`"
  | .string s => "string " ++ Text.quoted s
  | .array _ => "sequence"
  | .object _ => "map"

/-- Words in single quotation marks, joined as alternatives. -/
def alternatives (words : List String) : String :=
  match words with
  | [] => "nothing"
  | [w] => "`" ++ w ++ "`"
  | [v, w] => "`" ++ v ++ "` or `" ++ w ++ "`"
  | ws => "one of " ++ String.intercalate ", " (ws.map fun w => "`" ++ w ++ "`")

/-- The wording of each cause. -/
def DecodeError.message : DecodeError → String
  | invalidType found expected => s!"invalid type: {describe found}, expected {expected}"
  | invalidValue found expected => s!"invalid value: {describe found}, expected {expected}"
  | invalidLength length expected => s!"invalid length {length}, expected {expected}"
  | missingField name => "missing field `" ++ name ++ "`"
  | duplicateField name => "duplicate field `" ++ name ++ "`"
  | unknownField name => "unknown field `" ++ name ++ "`"
  | unknownVariant word allowed =>
    "unknown variant `" ++ word ++ "`, expected " ++ alternatives allowed
  | unreadable reason => reason

/-- A reader of values of one type. -/
abbrev Decoder (α : Type) := Json → Except DecodeError α

namespace Decoder

variable {α : Type}

/-- A text. -/
def string : Decoder String
  | .string s => .ok s
  | j => .error (.invalidType j "a string")

/-- An integer between two bounds. -/
def intBetween (low high : Int) (expected : String) : Decoder Int
  | .number (.int n) =>
    if low ≤ n ∧ n ≤ high then .ok n else .error (.invalidValue (.int n) expected)
  | j => .error (.invalidType j expected)

/-- A signed integer of 64 bits. -/
def int64 : Decoder Int64 := fun j =>
  (intBetween (-0x8000000000000000) 0x7FFFFFFFFFFFFFFF "i64" j).map Int64.ofInt

/-- An unsigned integer of 64 bits. -/
def uint64 : Decoder UInt64 := fun j =>
  (intBetween 0 0xFFFFFFFFFFFFFFFF "u64" j).map fun n => UInt64.ofNat n.toNat

/-- An unsigned integer of 32 bits. -/
def uint32 : Decoder UInt32 := fun j =>
  (intBetween 0 0xFFFFFFFF "u32" j).map fun n => UInt32.ofNat n.toNat

/-- An unsigned integer of 16 bits. -/
def uint16 : Decoder UInt16 := fun j =>
  (intBetween 0 0xFFFF "u16" j).map fun n => UInt16.ofNat n.toNat

/-- Any number, as a double. -/
def binary64 : Decoder Binary64
  | .number n => .ok n.toBinary64
  | j => .error (.invalidType j "f64")

/-- A value that may be `null`. -/
def nullable (decode : Decoder α) : Decoder (Option α)
  | .null => .ok none
  | j => (decode j).map some

/-- A list, item by item. -/
def list (decode : Decoder α) : Decoder (List α)
  | .array items => items.mapM decode
  | j => .error (.invalidType j "a sequence")

/-- A map from names to values. -/
def map (decode : Decoder α) : Decoder (SortedMap α)
  | .object fields => do
    let entries ← fields.mapM fun (key, value) => do pure (key, ← decode value)
    pure (SortedMap.ofList entries)
  | j => .error (.invalidType j "a map")

end Decoder

/-- The parts of a record: its fields by name, or by place. -/
inductive Record where
  /-- Fields of an object. -/
  | named (fields : Fields)
  /-- Items of an array, in the order of the record's declaration; `shape` names the record and
  its size. -/
  | placed (names : List String) (items : List Json) (shape : String)

/-- What a record type says about its fields. -/
structure RecordShape where
  /-- Name of the record type in messages. -/
  name : String
  /-- Field names in the order of declaration, with a check of a field's value. -/
  fields : List (String × (Json → Except DecodeError Unit))
  /-- Refuse fields that are not declared. -/
  strict : Bool := false

/-- Check the fields present in the order in which they stand. -/
def RecordShape.checkFields (shape : RecordShape) :
    (seen : List String) → Fields → Except DecodeError Unit
  | _, [] => .ok ()
  | seen, (key, value) :: rest =>
    match shape.fields.lookup key with
    | none =>
      if shape.strict then .error (.unknownField key) else shape.checkFields seen rest
    | some check =>
      if key ∈ seen then .error (.duplicateField key)
      else do
        check value
        shape.checkFields (key :: seen) rest

/-- Take a value apart as a record. -/
def RecordShape.open (shape : RecordShape) : Json → Except DecodeError Record
  | .object fields => do
    shape.checkFields [] fields
    pure (.named fields)
  | .array items =>
    let words := "struct " ++ shape.name ++ " with " ++ toString shape.fields.length ++
      (if shape.fields.length = 1 then " element" else " elements")
    pure (.placed (shape.fields.map (·.1)) items words)
  | j => .error (.invalidType j ("struct " ++ shape.name))

namespace Record

variable {α : Type}

/-- The value of a field, and the number of items before its place. -/
def find? (record : Record) (name : String) : Option Json :=
  match record with
  | named fields => fields.lookup name
  | placed names items _ => items[names.idxOf name]?

/-- A field that must be present. -/
def required (record : Record) (name : String) (decode : Decoder α) : Except DecodeError α :=
  match record.find? name, record with
  | some j, _ => decode j
  | none, named _ => .error (.missingField name)
  | none, placed names _ shape => .error (.invalidLength (names.idxOf name) shape)

/-- A field with a default. -/
def optional (record : Record) (name : String) (decode : Decoder α) (default : α) :
    Except DecodeError α :=
  match record.find? name with
  | some j => decode j
  | none => .ok default

/-- A field that is `none` when absent or `null`. In an array its place must be there. -/
def nullable (record : Record) (name : String) (decode : Decoder α) :
    Except DecodeError (Option α) :=
  match record.find? name, record with
  | some j, _ => decode.nullable j
  | none, named _ => .ok none
  | none, placed names _ shape => .error (.invalidLength (names.idxOf name) shape)

/-- An array must not have more items than the record has fields. -/
def close (record : Record) (value : α) : Except DecodeError α :=
  match record with
  | named _ => .ok value
  | placed names items _ =>
    if names.length < items.length then
      .error (.invalidLength items.length "fewer elements in array")
    else .ok value

end Record

/-- The check that a decoder makes of a field. -/
def Decoder.check {α : Type} (decode : Decoder α) : Json → Except DecodeError Unit :=
  fun j => (decode j).map fun _ => ()

end Catalog.Json
