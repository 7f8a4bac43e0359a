/-!
# ASCII letters and digits

Case mapping and classes that look at ASCII alone: a letter outside ASCII is left as it is. The
grammars of type tags, directions, levels and addresses are case-insensitive in this sense only.
-/

namespace Catalog.Text

/-- Lower the ASCII capitals of a text. -/
def lowerAscii (cs : List Char) : List Char :=
  cs.map Char.toLower

/-- Two texts agree up to the case of ASCII letters. -/
def sameIgnoringCase (s t : List Char) : Bool :=
  lowerAscii s == lowerAscii t

/-- The value of a decimal digit. -/
def digitValue? (c : Char) : Option Nat :=
  if '0' ≤ c ∧ c ≤ '9' then some (c.toNat - 48) else none

/-- The value of a hexadecimal digit, in either case. -/
def hexValue? (c : Char) : Option Nat :=
  if '0' ≤ c ∧ c ≤ '9' then some (c.toNat - 48)
  else if 'a' ≤ c ∧ c ≤ 'f' then some (c.toNat - 87)
  else if 'A' ≤ c ∧ c ≤ 'F' then some (c.toNat - 55)
  else none

/-- The hexadecimal digit of a value below sixteen, in capitals. -/
def upperHexDigit (n : Nat) : Char :=
  if n < 10 then Char.ofNat (48 + n) else Char.ofNat (55 + n)

/-- The hexadecimal digit of a value below sixteen, in small letters. -/
def lowerHexDigit (n : Nat) : Char :=
  if n < 10 then Char.ofNat (48 + n) else Char.ofNat (87 + n)

/-- The number `n` in hexadecimal with exactly `width` small digits. -/
def lowerHex (width n : Nat) : List Char :=
  (List.range width).reverse.map fun i => lowerHexDigit (n / Nat.pow 16 i % 16)

/-- An ASCII letter. -/
def isAsciiLetter (c : Char) : Bool :=
  ('a' ≤ c && c ≤ 'z') || ('A' ≤ c && c ≤ 'Z')

/-- An ASCII digit. -/
def isAsciiDigit (c : Char) : Bool :=
  '0' ≤ c && c ≤ '9'

end Catalog.Text
