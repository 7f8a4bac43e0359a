import Catalog.Text.Ascii

/-!
# Quoted texts in messages

A text between double quotes, with quotes, backslashes and characters that cannot be seen written
as escapes.
-/

namespace Catalog.Text

/-- Characters that do not show: controls, format characters, separators other than the space,
private use and surrogate-like code points. -/
def isInvisible (c : Char) : Bool :=
  let n := c.toNat
  n < 0x20 || (0x7F ≤ n && n < 0xA1) || n == 0xAD || (0x600 ≤ n && n ≤ 0x605) || n == 0x61C
    || n == 0x6DD || n == 0x70F || n == 0x1680 || n == 0x180E || (0x2000 ≤ n && n ≤ 0x200F)
    || (0x2028 ≤ n && n ≤ 0x202F) || (0x205F ≤ n && n ≤ 0x206F) || n == 0x3000
    || (0xE000 ≤ n && n ≤ 0xF8FF) || n == 0xFEFF || (0xFFF0 ≤ n && n ≤ 0xFFFB)
    || n == 0xFFFE || n == 0xFFFF || 0xE0000 ≤ n

/-- Marks that combine with the character before them. -/
def isCombining (c : Char) : Bool :=
  let n := c.toNat
  (0x300 ≤ n && n ≤ 0x36F) || (0x483 ≤ n && n ≤ 0x489) || (0x591 ≤ n && n ≤ 0x5BD)
    || (0x64B ≤ n && n ≤ 0x65F) || n == 0x200C || (0x20D0 ≤ n && n ≤ 0x20F0)
    || (0xFE00 ≤ n && n ≤ 0xFE0F) || (0xFE20 ≤ n && n ≤ 0xFE2F)

/-- A character inside a quoted text. -/
def quotedChar (c : Char) : List Char :=
  match c with
  | '\x00' => ['\\', '0']
  | '\t' => ['\\', 't']
  | '\n' => ['\\', 'n']
  | '\r' => ['\\', 'r']
  | '"' => ['\\', '"']
  | '\\' => ['\\', '\\']
  | c =>
    if isInvisible c || isCombining c then
      ['\\', 'u', '\x7b'] ++ Nat.toDigits 16 c.toNat ++ ['\x7d']
    else [c]

/-- A text between quotes. -/
def quoted (s : String) : String :=
  String.ofList ('"' :: (s.toList.flatMap quotedChar ++ ['"']))

end Catalog.Text
