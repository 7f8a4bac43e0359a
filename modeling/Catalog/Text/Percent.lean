import Catalog.Text.Ascii
import Catalog.Text.Utf8

/-!
# Percent encoding

A byte as a percent sign with two hexadecimal digits, and the characters that addresses reserve.
-/

namespace Catalog.Percent

/-- A byte as a percent sign and two hexadecimal digits in capitals. -/
def encodeByte (b : UInt8) : List Char :=
  ['%', Text.upperHexDigit (b.toNat / 16), Text.upperHexDigit (b.toNat % 16)]

/-- Encode the bytes of every character that is not ASCII or that `reserved` holds of. -/
def encode (reserved : Char → Bool) (cs : List Char) : List Char :=
  cs.flatMap fun c =>
    if c.toNat < 0x80 && !reserved c then [c] else (Text.utf8Bytes c).flatMap encodeByte

/-- Decode characters to bytes. A percent sign without two digits after it stands for itself. -/
def decode : List Char → List UInt8
  | [] => []
  | '%' :: a :: b :: rest =>
    match Text.hexValue? a, Text.hexValue? b with
    | some high, some low => (high * 16 + low).toUInt8 :: decode rest
    | _, _ => 0x25 :: decode (a :: b :: rest)
  | c :: rest => Text.utf8Bytes c ++ decode rest
termination_by cs => cs.length

theorem hexValue?_upperHexDigit {n : Nat} (h : n < 16) :
    Text.hexValue? (Text.upperHexDigit n) = some n := by
  have all : ∀ m ∈ List.range 16, Text.hexValue? (Text.upperHexDigit m) = some m := by decide
  exact all n (List.mem_range.2 h)

/-! ## Sets of characters that addresses reserve -/

/-- Control characters. -/
def isControl (c : Char) : Bool :=
  c.toNat < 0x20 || c.toNat == 0x7F

/-- Characters that do not stand in a path. -/
def inPath (c : Char) : Bool :=
  isControl c || [' ', '"', '<', '>', '\x60', '#', '?', '\x7b', '\x7d'].contains c

/-- Characters that do not stand in user information. -/
def inUserInfo (c : Char) : Bool :=
  inPath c || ['/', ':', ';', '=', '@', '[', '\\', ']', '^', '|'].contains c

end Catalog.Percent
