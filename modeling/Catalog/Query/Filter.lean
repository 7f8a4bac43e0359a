import Catalog.Binary64.Decimal
import Catalog.Pattern.Matcher
import Catalog.Query.Error
import Catalog.Query.Predicate
import Catalog.Time.Reader

/-!
# Filters

A filter is a list of clauses between commas, all of which must hold. A clause is a field, a colon
and a value; the value of an array field is a list of tokens between bars. The first clause that
does not fit the schema is the error; of several clauses of one field the last one counts.
-/

namespace Catalog.Filter

/-- Read an integer. -/
def integer (field : String) (raw : List Char) : Except QueryError Test :=
  match Numeral.readInt64 raw with
  | .ok n => .ok (.equals (.integer n))
  | .error _ => .error (.invalidValue field (String.ofList raw) "integer")

/-- Read a finite number. -/
def float (field : String) (raw : List Char) : Except QueryError Test :=
  match Binary64.readFinite? raw with
  | some x => .ok (.equals (.float x))
  | none => .error (.invalidValue field (String.ofList raw) "number")

/-- Read a timestamp, a local time or a date, whichever fits first. -/
def instant? (raw : List Char) : Option Instant :=
  ((Instant.readTimestamp raw).toOption.orElse fun _ => (Instant.readLocalTime raw).toOption).orElse
    fun _ => (Instant.readDate raw).toOption

/-- Read a date. -/
def date (field : String) (raw : List Char) : Except QueryError Test :=
  match instant? raw with
  | some t => .ok (.equals (.date t))
  | none => .error (.invalidValue field (String.ofList raw) "date")

/-- Take a text as a pattern that ignores case, if it compiles. -/
def pattern (field : String) (raw : List Char) : Except QueryError Test :=
  let p : TextPattern := ⟨String.ofList raw, true⟩
  if p.compile?.isSome then .ok (.pattern p)
  else .error (.invalidValue field p.source "regular expression")

/-- The reader of values of a scalar type, if the type has one. -/
def reader? : ScalarType → Option (String → List Char → Except QueryError Test)
  | .string => some pattern
  | .integer => some integer
  | .float => some float
  | .number => some float
  | .date => some date
  | .boolean => none
  | .object => none

/-- The reader of tokens of an array. Arrays of dates cannot be filtered by. -/
def elementReader? : ScalarType → Option (String → List Char → Except QueryError Test)
  | .date => none
  | t => reader? t

/-- Convert the value of a field under its declared type. -/
def convert (field : String) (declared : FieldType) (raw : List Char) :
    Except QueryError Condition :=
  match declared with
  | .scalar t =>
    match reader? t with
    | some read => (read field raw).map Condition.single
    | none => .error (.unsupportedType field declared)
  | .arrayOf t =>
    match elementReader? t with
    | some read => ((Text.splitOn '|' raw).mapM (read field)).map Condition.allOf
    | none => .error (.unsupportedType field declared)

/-- The field and the value of a clause, which are separated by its first colon. -/
def splitClause (clause : List Char) : String × List Char :=
  match Text.splitFirst? ':' clause with
  | some (field, raw) => (String.ofList field, raw)
  | none => (String.ofList clause, [])

/-- The condition of a clause. -/
def compileClause (schema : Schema) (clause : List Char) : Except QueryError (String × Condition) :=
  let (field, raw) := splitClause clause
  match schema.get? field with
  | none => .error (.invalidField field)
  | some declared => (convert field declared raw).map fun condition => (field, condition)

/-- The clauses of an expression. -/
def clauses (expression : String) : List (List Char) :=
  Text.splitOn ',' expression.toList

/-- Compile a filter. An absent or empty one holds of everything. -/
def compile (schema : Schema) (expression : Option String) : Except QueryError Predicate :=
  match expression with
  | none => .ok SortedMap.empty
  | some text =>
    if text.isEmpty then .ok SortedMap.empty
    else ((clauses text).mapM (compileClause schema)).map SortedMap.ofList

end Catalog.Filter
