import Catalog.Text.Split
import Catalog.Yaml.Value

/-!
# Printing YAML

Block style with two columns of indentation; a sequence below a key stands at the column of the
key. A text is written plain where it reads back as that text, and otherwise in quotation marks;
one with line feeds is written as a literal block.
-/

namespace Catalog.Yaml

/-! ## Scalars -/

/-- A character that is written as it is, in any style. -/
def isPrintable (c : Char) : Bool :=
  c == '\n' || (' ' ≤ c && c ≤ '~') || ('\u00a0' ≤ c && c ≤ '\ufffd' && c != '\ufeff')

/-- Whether a mark stands at the start of a plain text where it has a meaning of its own. -/
def startsWithMark : List Char → Bool
  | '-' :: '-' :: '-' :: _ => true
  | '.' :: '.' :: '.' :: _ => true
  | [] => false
  | c :: rest =>
    c ∈ ['#', ',', '[', ']', '\x7b', '\x7d', '&', '*', '!', '|', '>', '\'', '"', '%', '@', '\x60']
      || (c ∈ ['?', ':', '-'] && endsWord rest.head?)

/-- Whether a colon before a blank or a number sign after one stands behind the first character. -/
def hasInnerMark : List Char → Bool
  | c :: d :: rest =>
    (d == ':' && endsWord rest.head?) || (d == '#' && endsWord (some c)) || hasInnerMark (d :: rest)
  | _ => false

/-- Whether a character satisfying `p` is followed at once by one satisfying `q`. -/
def hasPair (p q : Char → Bool) (cs : List Char) : Bool :=
  (cs.zip cs.tail).any fun (a, b) => p a && q b

/-- The ways of writing a scalar. -/
inductive WrittenStyle where
  /-- As it is. -/
  | plain
  /-- In single quotation marks. -/
  | single
  /-- In double quotation marks, with escapes. -/
  | double
  /-- As a block that keeps its lines. -/
  | literal
deriving DecidableEq

/-- How a text is written. -/
def WrittenStyle.ofText (s : String) : WrittenStyle :=
  let cs := s.toList
  let special := cs.any fun c => !isPrintable c
  let spaceBeforeBreak := hasPair (· == ' ') isBreak cs
  let spaceAfterBreak := hasPair isBreak (· == ' ') cs
  let closesWithSpace := cs.getLast? == some ' '
  let quotes : WrittenStyle := if special || spaceBeforeBreak || spaceAfterBreak then .double else .single
  if cs.contains '\n' then
    if special || spaceBeforeBreak || closesWithSpace then .double else .literal
  else match PlainKind.ofText s with
    | .text =>
      if PlainKind.hasLeadingZero cs || special || closesWithSpace || cs.head? == some ' ' || cs.any isBreak
          || startsWithMark cs || hasInnerMark cs then quotes
      else .plain
    | _ => quotes

/-- A character in double quotation marks. -/
def escapeChar (c : Char) : List Char :=
  match c with
  | '\x00' => ['\\', '0']
  | '\x07' => ['\\', 'a']
  | '\x08' => ['\\', 'b']
  | '\t' => ['\\', 't']
  | '\n' => ['\\', 'n']
  | '\x0b' => ['\\', 'v']
  | '\x0c' => ['\\', 'f']
  | '\r' => ['\\', 'r']
  | '\x1b' => ['\\', 'e']
  | '"' => ['\\', '"']
  | '\\' => ['\\', '\\']
  | '\u0085' => ['\\', 'N']
  | '\u2028' => ['\\', 'L']
  | '\u2029' => ['\\', 'P']
  | c =>
    if isPrintable c then [c]
    else
      let hex (width : Nat) : List Char :=
        (List.range width).reverse.map fun i => Text.upperHexDigit (c.toNat / Nat.pow 16 i % 16)
      if c.toNat ≤ 0xFF then '\\' :: 'x' :: hex 2
      else if c.toNat ≤ 0xFFFF then '\\' :: 'u' :: hex 4
      else '\\' :: 'U' :: hex 8

/-- Blanks up to a column. -/
def margin (column : Nat) : List Char := List.replicate column ' '

/-- The header of a literal block: a digit where indentation cannot be seen, and what becomes of
the line feeds at the end. -/
def literalHeader (cs : List Char) : List Char :=
  let hint := if cs.head?.any fun c => c == ' ' || isBreak c then ['2'] else []
  let chomping := match cs.reverse with
    | [c] => if isBreak c then ['+'] else ['-']
    | c :: d :: _ => if !isBreak c then ['-'] else if isBreak d then ['+'] else []
    | [] => ['-']
  '|' :: hint ++ chomping

/-- The lines of a literal block at a column; empty lines have no margin. -/
def literalLines (column : Nat) (cs : List Char) : List Char :=
  let lines := Text.splitOn '\n' cs
  let lines := if lines.getLast? = some [] then lines.dropLast else lines
  lines.flatMap fun line => (if line.isEmpty then [] else margin column ++ line) ++ ['\n']

/-- A text up to the end of its line or block; the lines of a block stand at `column`. -/
def renderText (column : Nat) (s : String) : List Char :=
  match WrittenStyle.ofText s with
  | .plain => s.toList ++ ['\n']
  | .single => '\'' :: (s.toList.flatMap fun c => if c = '\'' then [c, c] else [c]) ++ ['\'', '\n']
  | .double => '"' :: s.toList.flatMap escapeChar ++ ['"', '\n']
  | .literal => literalHeader s.toList ++ '\n' :: literalLines column s.toList

/-- The longest key, in bytes, that stands before its colon without a mark. -/
def maxBareKey : Nat := 128

/-- Whether a key stands before its colon without a mark. -/
def isBareKey (key : String) : Bool :=
  key.utf8ByteSize ≤ maxBareKey && !key.toList.any isBreak

/-! ## Collections -/

mutual

/-- A value after a mark that leaves its column: collections start on the same line, at `column`. -/
def renderInline (column : Nat) : Json → List Char
  | .object [] => ['\x7b', '\x7d', '\n']
  | .object (field :: fields) => renderField column field ++ renderFields column fields
  | .array [] => ['[', ']', '\n']
  | .array (item :: items) => '-' :: ' ' :: renderInline (column + 2) item ++ renderItems column items
  | .null => "null\n".toList
  | .bool b => (if b then "true\n" else "false\n").toList
  | .number (.int n) => intText n ++ ['\n']
  | .number (.double x) =>
    (if x.isFinite then Value.numberLayout.format x else "null".toList) ++ ['\n']
  | .string s => renderText column s

/-- A value behind the colon of a key at `column`: collections start on the next line. -/
def renderBelow (column : Nat) : Json → List Char
  | .object [] => [' ', '\x7b', '\x7d', '\n']
  | .object (field :: fields) => '\n' :: renderFields (column + 2) (field :: fields)
  | .array [] => [' ', '[', ']', '\n']
  | .array (item :: items) => '\n' :: renderItems column (item :: items)
  | .null => " null\n".toList
  | .bool b => (if b then " true\n" else " false\n").toList
  | .number (.int n) => ' ' :: intText n ++ ['\n']
  | .number (.double x) =>
    ' ' :: (if x.isFinite then Value.numberLayout.format x else "null".toList) ++ ['\n']
  | .string s => ' ' :: renderText (column + 2) s

/-- A field whose key stands at `column`, where the text has already arrived. -/
def renderField (column : Nat) : String × Json → List Char
  | (key, value) =>
    if isBareKey key then (renderText (column + 2) key).dropLast ++ ':' :: renderBelow column value
    else
      '?' :: ' ' :: renderText (column + 2) key ++ margin column ++
        ':' :: ' ' :: renderInline (column + 2) value

/-- Fields on lines of their own. -/
def renderFields (column : Nat) : Json.Fields → List Char
  | [] => []
  | field :: fields => margin column ++ renderField column field ++ renderFields column fields

/-- Items on lines of their own. -/
def renderItems (column : Nat) : List Json → List Char
  | [] => []
  | item :: items =>
    margin column ++ '-' :: ' ' :: renderInline (column + 2) item ++ renderItems column items

end

/-- A value as a document. -/
def render (j : Json) : String :=
  String.ofList (renderInline 0 j)

end Catalog.Yaml
