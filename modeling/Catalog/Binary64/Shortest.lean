import Catalog.Binary64.Basic

/-!
# Shortest decimal text

The fewest decimal digits that read back as a given double, and of those the nearest, laid out
either positionally or with an exponent. All comparisons are between natural numbers.
-/

namespace Catalog.Binary64

/-- Decimal digits and the power of ten of the first of them: `d.ddd · 10 ^ leading`. -/
structure Digits where
  /-- All digits as one integer. -/
  digits : Nat
  /-- The power of ten of the first digit. -/
  leading : Int

/-- A quotient of natural numbers is at most another one. -/
def ratioLe (a b : Nat × Nat) : Bool :=
  a.1 * b.2 ≤ b.1 * a.2

/-- `n · 10 ^ e` as a quotient. -/
def decimalRatio (n : Nat) (e : Int) : Nat × Nat :=
  if 0 ≤ e then (n * Nat.pow 10 e.toNat, 1) else (n, Nat.pow 10 (-e).toNat)

/-- `n · 2 ^ e` as a quotient. -/
def binaryRatio (n : Nat) (e : Int) : Nat × Nat :=
  if 0 ≤ e then (n * Nat.pow 2 e.toNat, 1) else (n, Nat.pow 2 (-e).toNat)

/-- The reals that round to a positive finite double, as an interval with a flag for its ends. -/
structure Cell where
  /-- The double itself. -/
  value : Nat × Nat
  /-- Lower end. -/
  low : Nat × Nat
  /-- Upper end. -/
  high : Nat × Nat
  /-- Whether the ends belong to it. -/
  closed : Bool

/-- The interval around a double: half a unit on each side, a quarter below a power of two. -/
def cell (x : Binary64) : Cell :=
  let m := x.significand
  let e := x.exponent - 2
  let below := if m = 0x10000000000000 ∧ 0x20000000000000 ≤ x.magnitude then 1 else 2
  { value := binaryRatio (4 * m) e
    low := binaryRatio (4 * m - below) e
    high := binaryRatio (4 * m + 2) e
    closed := m % 2 = 0 }

/-- Whether a quotient rounds to the double of the interval. -/
def Cell.contains (c : Cell) (q : Nat × Nat) : Bool :=
  if c.closed then ratioLe c.low q && ratioLe q c.high
  else !ratioLe q c.low && !ratioLe c.high q

/-- The power of ten of the leading digit of a positive quotient, from its power of two. -/
def leadingPower (q : Nat × Nat) : Int :=
  let guess : Int := (((q.1.log2 : Int) - q.2.log2) * 30103) / 100000
  if !ratioLe (decimalRatio 1 guess) q then guess - 1
  else if ratioLe (decimalRatio 1 (guess + 1)) q then guess + 1
  else guess

/-- The multiple of `10 ^ e` nearest to the double among the two next to it, if one of them rounds
to the double. Of two equally near ones the even one is taken. -/
def nearestOnGrid? (c : Cell) (e : Int) : Option Nat :=
  let (p, r) := decimalRatio 1 e
  let num := c.value.1 * r
  let den := c.value.2 * p
  let d := num / den
  let rest := num % den
  let below := c.contains (decimalRatio d e)
  let above := c.contains (decimalRatio (d + 1) e)
  if below && above then
    some (if 2 * rest < den then d else if den < 2 * rest then d + 1 else d + d % 2)
  else if below then some d
  else if above then some (d + 1)
  else none

/-- Try ever finer grids, from one digit to seventeen. -/
def searchGrids (c : Cell) (leading : Int) : (count : Nat) → (left : Nat) → Digits
  | count, 0 => ⟨c.value.1 / c.value.2, count⟩
  | count, left + 1 =>
    match nearestOnGrid? c (leading - count) with
    | some d =>
      -- Rounding up may have reached the next power of ten.
      if d = Nat.pow 10 (count + 1) then ⟨d / 10, leading + 1⟩ else ⟨d, leading⟩
    | none => searchGrids c leading (count + 1) left

/-- The shortest digits of a positive finite number. -/
def shortestDigits (x : Binary64) : Digits :=
  let c := cell x
  searchGrids c (leadingPower c.value) 0 18

/-- Strip trailing zeros of a digit list given in reverse. -/
def stripZeros : List Char → List Char
  | '0' :: cs => stripZeros cs
  | cs => cs

/-- The layout of a number in a data format. -/
structure Layout where
  /-- Least power of ten of a leading digit that is written positionally. -/
  least : Int
  /-- Least power of ten beyond those written positionally. -/
  bound : Int
  /-- Text between the digits and a positive exponent. -/
  positive : String
  /-- Text between the digits and the digits of a negative exponent. -/
  negative : String

/-- Lay out digits, always with a fraction or an exponent. -/
def Layout.render (layout : Layout) (d : Digits) : List Char :=
  let ds := match (stripZeros (Nat.toDigits 10 d.digits).reverse).reverse with
    | [] => ['0']
    | ds => ds
  let count : Int := ds.length
  if layout.least ≤ d.leading ∧ d.leading < layout.bound then
    if d.leading < 0 then
      ['0', '.'] ++ List.replicate (-d.leading - 1).toNat '0' ++ ds
    else if count ≤ d.leading + 1 then
      ds ++ List.replicate (d.leading + 1 - count).toNat '0' ++ ['.', '0']
    else
      ds.take (d.leading + 1).toNat ++ '.' :: ds.drop (d.leading + 1).toNat
  else
    let mantissa := match ds with
      | [] => []
      | [c] => [c]
      | c :: cs => c :: '.' :: cs
    let power := Nat.toDigits 10 d.leading.natAbs
    mantissa ++ (if d.leading < 0 then layout.negative else layout.positive).toList ++ power

/-- The text of a finite number under a layout. -/
def Layout.format (layout : Layout) (x : Binary64) : List Char :=
  let body := if x.magnitude = 0 then ['0', '.', '0'] else layout.render x.shortestDigits
  if x.isNegative then '-' :: body else body

/-- Numbers in JSON: positional from `10 ^ -5` up to `10 ^ 16`, exponents with their sign. -/
def jsonLayout : Layout := ⟨-5, 16, "e+", "e-"⟩

end Catalog.Binary64
