import Catalog.Schema

/-!
# Query errors

What can be wrong with a filter, a sort or a page: each cause is a fault of the client's input.
-/

namespace Catalog

/-- Why a query is refused. -/
inductive QueryError where
  /-- The schema has no such field. -/
  | invalidField (field : String)
  /-- The field's type has no rule for filter values. -/
  | unsupportedType (field : String) (declared : FieldType)
  /-- The text is not a value of the field's type. -/
  | invalidValue (field value : String) (expected : String)
  /-- Pages are counted from one. -/
  | invalidPage
  /-- A page holds at least one item. -/
  | invalidPageSize
deriving DecidableEq, Repr

namespace QueryError

/-- The wording of each cause. -/
def message : QueryError → String
  | invalidField field => s!"invalid field: {field}"
  | unsupportedType field declared =>
    "unsupported type '" ++ declared.tag ++ "' for field '" ++ field ++ "'"
  | invalidValue field value expected =>
    "invalid value '" ++ value ++ "' for field '" ++ field ++ "': expected " ++ expected
  | invalidPage => "page must be a positive integer"
  | invalidPageSize => "pageSize must be a positive integer"

/-- The stable code of each cause. -/
def code : QueryError → String
  | invalidField _ => "QUERY_INVALID_FIELD"
  | unsupportedType _ _ => "QUERY_UNSUPPORTED_TYPE"
  | invalidValue _ _ _ => "QUERY_INVALID_VALUE"
  | invalidPage => "QUERY_INVALID_PAGE"
  | invalidPageSize => "QUERY_INVALID_PAGE_SIZE"

end QueryError

end Catalog
