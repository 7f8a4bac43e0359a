import Catalog.Http.Form
import Catalog.Numeral
import Catalog.Problem

/-!
# List parameters

Filter, sort and page parameters as a query string carries them. Only presence, number format and
length are checked; pairs are read in order and the first fault makes the error.
-/

namespace Catalog

/-- Parameters of a listing as a client sends them. -/
structure ListParams where
  /-- Filter expression. -/
  filter : Option String := none
  /-- Sort expression. -/
  sort : Option String := none
  /-- Page number. -/
  page : Option UInt64 := none
  /-- Page size. -/
  pageSize : Option UInt64 := none
deriving DecidableEq, Repr

/-- Why list parameters are refused. -/
inductive ParamsError where
  /-- A parameter stands twice. -/
  | duplicate (name : String)
  /-- A number is ill-formed. -/
  | invalidNumber (name : String) (reason : NumeralError)
  /-- The filter has too many bytes. -/
  | filterTooLong
  /-- The sort expression has too many bytes. -/
  | sortTooLong
deriving DecidableEq, Repr

namespace ParamsError

/-- The problem that a client is told. -/
def problem : ParamsError → Problem
  | duplicate name => unreadable ("duplicate field `" ++ name ++ "`")
  | invalidNumber name reason => unreadable (name ++ ": " ++ reason.message)
  | filterTooLong => (Problem.badRequest "QUERY_FILTER_TOO_LONG" "Filter too long").withParameter "filter"
  | sortTooLong => (Problem.badRequest "QUERY_SORT_TOO_LONG" "Sort too long").withParameter "sort"
where
  /-- Parameters that cannot be read. -/
  unreadable (reason : String) : Problem :=
    Problem.badRequest "QUERY_INVALID_PARAMETERS"
      ("invalid query parameters: Failed to deserialize query string: " ++ reason)

end ParamsError

namespace ListParams

/-- The greatest number of bytes in a filter. -/
def maxFilterLength : Nat := 8192

/-- The greatest number of bytes in a sort expression. -/
def maxSortLength : Nat := 1024

/-- Set a parameter that must not be there yet. -/
def once {α : Type} (name : String) (old : Option α) (read : Except ParamsError α) :
    Except ParamsError (Option α) :=
  match old with
  | some _ => .error (.duplicate name)
  | none => read.map some

/-- Read a number of a parameter. -/
def readNumber (name value : String) : Except ParamsError UInt64 :=
  match Numeral.readUInt64 value.toList with
  | .ok n => .ok n
  | .error e => .error (.invalidNumber name e)

/-- Take in a pair of the query. Names that are not known are passed over. -/
def take (p : ListParams) (pair : String × String) : Except ParamsError ListParams :=
  let (name, value) := pair
  match name with
  | "filter" => (once name p.filter (.ok value)).map fun filter => { p with filter }
  | "sort" => (once name p.sort (.ok value)).map fun sort => { p with sort }
  | "page" => (once name p.page (readNumber name value)).map fun page => { p with page }
  | "pageSize" =>
    (once name p.pageSize (readNumber name value)).map fun pageSize => { p with pageSize }
  | _ => .ok p

/-- Whether a text has more bytes than allowed. -/
def isLonger (limit : Nat) (text : Option String) : Bool :=
  match text with
  | some s => limit < s.utf8ByteSize
  | none => false

/-- Refuse texts that are too long, the filter first. -/
def checkLengths (p : ListParams) : Except ParamsError ListParams :=
  if isLonger maxFilterLength p.filter then .error .filterTooLong
  else if isLonger maxSortLength p.sort then .error .sortTooLong
  else .ok p

/-- Read the parameters of a query string. -/
def ofQuery (query : List Char) : Except ParamsError ListParams := do
  ((Form.pairs query).foldlM take {}) >>= checkLengths

end ListParams

end Catalog
