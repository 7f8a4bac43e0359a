import Catalog.Binary64.Basic
import Catalog.Numeral

/-!
# Reading decimal numbers

Decimal texts with an optional sign, point and exponent, rounded to the nearest double.
-/

namespace Catalog.Binary64

/-- The number nearest to `± digits · 10 ^ exponent`. Quotients far outside the range of doubles
are settled without computing the power. -/
def ofDecimal (negative : Bool) (digits : Nat) (exponent : Int) : Binary64 :=
  let size : Int := (Nat.log2 digits + 1 : Nat)
  if digits = 0 then ofMagnitude negative 0
  -- With `b` bits the quotient is at least `2 ^ (b - 1) · 10 ^ exponent`.
  else if 1100 < 3 * exponent + size ∧ 0 < exponent then ofMagnitude negative infinityMagnitude
  else if 3 * exponent + size < -1100 ∧ exponent < 0 then ofMagnitude negative 0
  else if 0 ≤ exponent then ofRatio negative (digits * Nat.pow 10 exponent.toNat) 1
  else ofRatio negative digits (Nat.pow 10 (-exponent).toNat)

/-- An unsigned decimal number taken apart: its digits as one integer, and the power of ten. -/
structure Scanned where
  /-- All digits, read without the point. -/
  digits : Nat
  /-- The power of ten that they count. -/
  exponent : Int

/-- Read the part after an `e`: an optional sign and at least one digit. -/
def readExponent? (cs : List Char) : Option Int :=
  let (negative, ds) := match cs with
    | '-' :: ds => (true, ds)
    | '+' :: ds => (false, ds)
    | ds => (false, ds)
  if ds.isEmpty || !ds.all Text.isAsciiDigit then none
  else
    let n : Int := Numeral.ofDigits ds
    some (if negative then -n else n)

/-- Read an unsigned number: digits with an optional point, at least one digit in all, and an
optional exponent. -/
def scanUnsigned? (cs : List Char) : Option Scanned :=
  let whole := cs.takeWhile Text.isAsciiDigit
  let rest := cs.dropWhile Text.isAsciiDigit
  let (fraction, rest) := match rest with
    | '.' :: rest => (rest.takeWhile Text.isAsciiDigit, rest.dropWhile Text.isAsciiDigit)
    | rest => ([], rest)
  if whole.isEmpty && fraction.isEmpty then none
  else
    let digits := Numeral.ofDigits (whole ++ fraction)
    let places : Int := fraction.length
    match rest with
    | [] => some ⟨digits, -places⟩
    | c :: rest =>
      if c = 'e' ∨ c = 'E' then (readExponent? rest).map fun e => ⟨digits, e - places⟩ else none

/-- Read a decimal text with an optional sign; a value beyond all doubles reads as infinity. -/
def read? (cs : List Char) : Option Binary64 :=
  let (negative, cs) := match cs with
    | '-' :: cs => (true, cs)
    | '+' :: cs => (false, cs)
    | cs => (false, cs)
  (scanUnsigned? cs).map fun s => ofDecimal negative s.digits s.exponent

/-- Read a decimal text with an optional sign as a finite double. Words for infinity and NaN are
not numbers, and neither is a text whose value rounds to infinity. -/
def readFinite? (cs : List Char) : Option Binary64 :=
  (read? cs).filter isFinite

end Catalog.Binary64
