import Catalog.SortedMap
import Catalog.Binary64.Basic
import Catalog.Time.Instant

/-!
# Predicates

What a filter compiles to: for each field, in key order, a condition that its value must meet.
-/

namespace Catalog

/-- A typed value of a filter. -/
inductive Literal where
  /-- An integer. -/
  | integer (n : Int64)
  /-- A finite double. -/
  | float (x : Binary64)
  /-- A point of time. -/
  | date (t : Instant)
deriving DecidableEq, Repr

namespace Literal

/-- The number that a literal stands for in comparisons with stored numbers. -/
def number? : Literal → Option Binary64
  | integer n => some (Binary64.ofInt n.toInt)
  | float x => some x
  | date _ => none

/-- Literals agree when they are of one kind and equal as values; the two zeros agree. -/
def agrees : Literal → Literal → Bool
  | integer m, integer n => m == n
  | float x, float y => x.sameNumber y
  | date s, date t => s == t
  | _, _ => false

end Literal

/-- A regular expression looked for anywhere in a text. The source is kept as the client wrote
it. -/
structure TextPattern where
  /-- The expression. -/
  source : String
  /-- Whether the case of letters is ignored. -/
  ignoreCase : Bool
deriving DecidableEq, Repr

/-- A condition on one value. -/
inductive Test where
  /-- Equal to a literal. -/
  | equals (value : Literal)
  /-- Holding a match of a pattern. -/
  | pattern (p : TextPattern)
deriving DecidableEq, Repr

/-- A condition on a field. -/
inductive Condition where
  /-- A single test. -/
  | single (test : Test)
  /-- Each test must be met by some element of an array. -/
  | allOf (tests : List Test)
deriving DecidableEq, Repr

namespace Test

/-- Tests agree when their literals do, or their patterns are the same. -/
def agrees : Test → Test → Bool
  | equals a, equals b => a.agrees b
  | pattern p, pattern q => p == q
  | _, _ => false

end Test

namespace Condition

/-- Conditions agree test by test, in order. -/
def agrees : Condition → Condition → Bool
  | single s, single t => s.agrees t
  | allOf ss, allOf ts => ss.length == ts.length && (ss.zip ts).all fun (s, t) => s.agrees t
  | _, _ => false

end Condition

/-- Conditions by field, all of which must hold. -/
abbrev Predicate := SortedMap Condition

/-- Predicates agree when they have the same fields, with conditions that agree. -/
def Predicate.agrees (p q : Predicate) : Bool :=
  p.keys == q.keys && (p.toList.zip q.toList).all fun (a, b) => a.2.agrees b.2

end Catalog
