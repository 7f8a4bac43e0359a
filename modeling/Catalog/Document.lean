import Catalog.Json.Basic
import Catalog.Pattern.Matcher
import Catalog.Query.Predicate
import Catalog.Query.Sort
import Catalog.Time.Reader

/-!
# Documents

JSON objects as they are stored: when a predicate holds of one, and how two of them are ordered by
sort keys. A condition on an array holds when an element meets it, and a missing or null field
meets none.
-/

namespace Catalog

/-- The fields of a stored JSON object. -/
abbrev Document := Json.Fields

/-- A test with its pattern compiled. -/
inductive CompiledTest where
  /-- Equal to a literal. -/
  | equals (value : Literal)
  /-- Holding a match. -/
  | pattern (m : Matcher)

/-- A condition with its patterns compiled. -/
inductive CompiledCondition where
  /-- A single test. -/
  | single (test : CompiledTest)
  /-- Tests that some elements must meet. -/
  | allOf (tests : List CompiledTest)

/-- A predicate with its patterns compiled. -/
abbrev CompiledFilter := List (String × CompiledCondition)

/-- Compile the pattern of a test. -/
def Test.compile? : Test → Option CompiledTest
  | .equals value => some (.equals value)
  | .pattern p => p.compile?.map .pattern

/-- Compile the patterns of a condition. -/
def Condition.compile? : Condition → Option CompiledCondition
  | .single test => test.compile?.map .single
  | .allOf tests => (tests.mapM Test.compile?).map .allOf

/-- Compile the patterns of a predicate. -/
def Predicate.compile? (p : Predicate) : Option CompiledFilter :=
  p.toList.mapM fun entry => entry.2.compile?.map fun c => (entry.1, c)

/-- The number of a value. -/
def Json.binary64? : Json → Option Binary64
  | .number n => some n.toBinary64
  | _ => none

namespace CompiledTest

/-- Whether a value other than an array meets a test. Dates are compared as instants, numbers as
doubles. -/
def holdsOfScalar (test : CompiledTest) (value : Json) : Bool :=
  match test with
  | pattern m =>
    match value with
    | .string s => m.isMatch s
    | _ => false
  | equals (.date t) =>
    match value with
    | .string s => Instant.timestamp? s == some t
    | _ => false
  | equals literal =>
    match literal.number?, value.binary64? with
    | some x, some y => x.sameNumber y
    | _, _ => false

/-- Whether a value meets a test: an array does when some element does. -/
def holds (test : CompiledTest) (value : Json) : Bool :=
  match value with
  | .array items => items.any test.holdsOfScalar
  | value => test.holdsOfScalar value

end CompiledTest

/-- Whether a value meets a condition. -/
def CompiledCondition.holds : CompiledCondition → Json → Bool
  | single test, value => test.holds value
  | allOf tests, value => tests.all fun test => test.holds value

/-- Whether a document meets every condition. -/
def CompiledFilter.holds (filter : CompiledFilter) (doc : Document) : Bool :=
  filter.all fun (field, condition) =>
    match doc.lookup field with
    | none => false
    | some .null => false
    | some value => condition.holds value

/-! ## Order -/

/-- The order of kinds: a missing value and null come first. -/
def Json.kindRank : Option Json → Nat
  | none => 0
  | some .null => 0
  | some (.number _) => 1
  | some (.string _) => 2
  | some (.object _) => 3
  | some (.array _) => 4
  | some (.bool _) => 5

/-- Two texts are compared as instants if both are timestamps, and by code points if not. -/
def compareTexts (s t : String) : Ordering :=
  match Instant.timestamp? s, Instant.timestamp? t with
  | some a, some b => a.cmp b
  | _, _ => compare s t

mutual

/-- The order of values: numbers as doubles, texts, truth values, and arrays element by element.
Objects are all equal, and kinds are ordered by rank. -/
def Json.compare : Json → Json → Ordering
  | .number m, .number n => m.toBinary64.compareTotal n.toBinary64
  | .string s, .string t => compareTexts s t
  | .bool a, .bool b => Ord.compare a b
  | .array xs, .array ys => Json.compareItems xs ys
  | a, b => Ord.compare (Json.kindRank (some a)) (Json.kindRank (some b))

/-- Compare arrays: the first elements that differ decide, then the lengths. -/
def Json.compareItems : List Json → List Json → Ordering
  | [], [] => .eq
  | [], _ :: _ => .lt
  | _ :: _, [] => .gt
  | x :: xs, y :: ys => (Json.compare x y).then (Json.compareItems xs ys)

end

/-- The order of values that may be missing. -/
def Json.compareOptional : Option Json → Option Json → Ordering
  | some a, some b => Json.compare a b
  | a, b => Ord.compare (Json.kindRank a) (Json.kindRank b)

/-- The order of documents by sort keys, most significant first. -/
def SortSpec.compareDocuments : SortSpec → Document → Document → Ordering
  | [], _, _ => .eq
  | key :: keys, a, b =>
    (key.direction.apply (Json.compareOptional (a.lookup key.field) (b.lookup key.field))).then
      (compareDocuments keys a b)

/-! ## Sorting -/

/-- Put an element into a list in descending order, after those that it is not less than. -/
def insertDescending {α : Type} (less : α → α → Bool) (x : α) : List α → List α
  | [] => [x]
  | y :: ys => if less x y then y :: insertDescending less x ys else x :: y :: ys

/-- Sort a list; equal elements keep their order. -/
def stableSort {α : Type} (less : α → α → Bool) (xs : List α) : List α :=
  (xs.foldl (fun sorted x => insertDescending less x sorted) []).reverse

end Catalog
