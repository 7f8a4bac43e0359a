import Catalog.Text.Ascii

/-!
# Positions in a text

A cursor holds the text that is left together with its line and column. Line breaks are those of
the YAML format; each is read as a line feed, except for the two Unicode separators, which stay.
-/

namespace Catalog.Yaml

/-- A place in a text. -/
structure Cursor where
  /-- The text from here on. -/
  rest : List Char
  /-- Characters before this place. -/
  index : Nat := 0
  /-- Line breaks before this place. -/
  line : Nat := 0
  /-- Characters since the last line break. -/
  column : Nat := 0

/-- A character that breaks a line. -/
def isBreak (c : Char) : Bool :=
  c == '\r' || c == '\n' || c == '\u0085' || c == '\u2028' || c == '\u2029'

/-- A space or a tab. -/
def isBlank (c : Char) : Bool := c == ' ' || c == '\t'

/-- A character of anchors and of handles of tags. -/
def isWordChar (c : Char) : Bool :=
  Text.isAsciiLetter c || Text.isAsciiDigit c || c == '_' || c == '-'

/-- A blank, a line break or the end of the text. -/
def endsWord : Option Char → Bool
  | none => true
  | some c => isBlank c || isBreak c

namespace Cursor

/-- The next character. -/
def peek? (c : Cursor) : Option Char := c.rest.head?

/-- The character `n` places ahead. -/
def ahead? (c : Cursor) (n : Nat) : Option Char := c.rest[n]?

/-- Go past characters of one line. -/
def skip (c : Cursor) (count : Nat) : Cursor :=
  { c with rest := c.rest.drop count, index := c.index + count, column := c.column + count }

/-- Go past the line break that stands here; the character it counts as. -/
def takeBreak (c : Cursor) : Char × Cursor :=
  let past (count : Nat) : Cursor :=
    { rest := c.rest.drop count, index := c.index + count, line := c.line + 1, column := 0 }
  match c.rest with
  | '\r' :: '\n' :: _ => ('\n', past 2)
  | '\u2028' :: _ => ('\u2028', past 1)
  | '\u2029' :: _ => ('\u2029', past 1)
  | _ => ('\n', past 1)

/-- The characters from here on that satisfy `p`, which holds of no line break. -/
def span (c : Cursor) (p : Char → Bool) : List Char × Cursor :=
  let taken := c.rest.takeWhile p
  (taken, c.skip taken.length)

/-- Go to the end of the line. -/
def skipLine (c : Cursor) : Cursor :=
  (c.span fun ch => !isBreak ch).2

/-- Whether a marker of three equal characters stands at the start of a line. -/
def atMarker (c : Cursor) (mark : Char) : Bool :=
  c.column == 0 && c.rest.take 3 == [mark, mark, mark] && endsWord (c.ahead? 3)

/-- Whether a document starts or ends here. -/
def atDocumentMarker (c : Cursor) : Bool := c.atMarker '-' || c.atMarker '.'

end Cursor

end Catalog.Yaml
