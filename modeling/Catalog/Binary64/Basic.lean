/-!
# Double-precision numbers

IEEE 754 binary64 numbers as their bits, with exact rounding in natural-number arithmetic. A
finite number is `± significand · 2 ^ exponent`; `Binary64.ofRatio` rounds a quotient of natural
numbers to the nearest such number, ties to the even significand.
-/

namespace Catalog

/-- A double-precision number, given by its bits: sign, eleven exponent bits, 52 fraction bits. -/
structure Binary64 where
  /-- The IEEE 754 bits. -/
  bits : UInt64
deriving DecidableEq, Repr, Inhabited

namespace Binary64

/-- The bits below the sign, a number that grows with the absolute value. -/
def magnitude (x : Binary64) : Nat :=
  x.bits.toNat % 0x8000000000000000

/-- The sign bit. -/
def isNegative (x : Binary64) : Bool :=
  0x8000000000000000 ≤ x.bits.toNat

/-- The magnitude of infinity; greater magnitudes are not numbers. -/
def infinityMagnitude : Nat := 0x7FF0000000000000

/-- Neither infinite nor a NaN. -/
def isFinite (x : Binary64) : Bool :=
  x.magnitude < infinityMagnitude

/-- Not a number. -/
def isNaN (x : Binary64) : Bool :=
  infinityMagnitude < x.magnitude

/-- Put a sign before a magnitude. -/
def ofMagnitude (negative : Bool) (magnitude : Nat) : Binary64 :=
  ⟨UInt64.ofNat (if negative then 0x8000000000000000 + magnitude else magnitude)⟩

/-- Positive zero. -/
def zero : Binary64 := ⟨0⟩

/-- The significand of a finite number, an integer below `2 ^ 53`. -/
def significand (x : Binary64) : Nat :=
  let fraction := x.magnitude % 0x10000000000000
  if x.magnitude < 0x10000000000000 then fraction else fraction + 0x10000000000000

/-- The power of two that the significand of a finite number counts. -/
def exponent (x : Binary64) : Int :=
  (max (x.magnitude / 0x10000000000000) 1 : Nat) - 1075

/-- The nearest integer to `num / den`, ties to the even one. -/
def roundHalfEven (num den : Nat) : Nat :=
  let q := num / den
  let r := num % den
  if 2 * r < den then q
  else if den < 2 * r then q + 1
  else if q % 2 = 0 then q else q + 1

/-- The quotient `num / den / 2 ^ e` as a pair of natural numbers. -/
def scale (num den : Nat) (e : Int) : Nat × Nat :=
  if 0 ≤ e then (num, den * Nat.pow 2 e.toNat) else (num * Nat.pow 2 (-e).toNat, den)

/-- The power of two `e ≥ -1074` for which the positive quotient `num / den` is a significand of
at most 53 bits times `2 ^ e`, and of exactly 53 bits where `e` is above the bound. -/
def exponentOfRatio (num den : Nat) : Int :=
  let guess : Int := (num.log2 : Int) - den.log2 - 52
  let (n, d) := scale num den guess
  max (if n / d < 0x10000000000000 then guess - 1 else guess) (-1074)

/-- The magnitude nearest to `num / den`, ties to the even significand; too large a quotient gives
infinity. -/
def magnitudeOfRatio (num den : Nat) : Nat :=
  if num = 0 then 0
  else
    let e := exponentOfRatio num den
    let (n, d) := scale num den e
    -- A significand of 53 bits carries its leading bit into the exponent field.
    min ((e + 1074).toNat * 0x10000000000000 + roundHalfEven n d) infinityMagnitude

/-- The number nearest to `± num / den`, for a positive `den`. -/
def ofRatio (negative : Bool) (num den : Nat) : Binary64 :=
  ofMagnitude negative (magnitudeOfRatio num den)

/-- The number nearest to an integer. -/
def ofInt (n : Int) : Binary64 :=
  ofRatio (n < 0) n.natAbs 1

/-- Position in the total order: negative numbers below positive ones, `-0` below `0`. -/
def orderKey (x : Binary64) : Int :=
  if x.isNegative then -(x.magnitude : Int) - 1 else x.magnitude

/-- The total order of IEEE 754, which tells the two zeros apart. -/
def compareTotal (x y : Binary64) : Ordering :=
  compare x.orderKey y.orderKey

/-- Equality as numbers: the two zeros agree, and a NaN differs from everything. -/
def sameNumber (x y : Binary64) : Bool :=
  !x.isNaN && !y.isNaN && (x == y || (x.magnitude == 0 && y.magnitude == 0))

end Binary64

end Catalog
