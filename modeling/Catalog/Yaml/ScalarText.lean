import Catalog.Yaml.Cursor

/-!
# Texts of scalars

Reading plain, quoted and block scalars of the YAML format. A run of blanks and line breaks inside
a flow scalar is folded: a single line break counts as a space, and of several the first is dropped.
-/

namespace Catalog.Yaml

/-- A run of blanks and line breaks. -/
structure Gap where
  /-- Blanks before the first line break. -/
  blanks : List Char := []
  /-- Line breaks. -/
  breaks : List Char := []
  /-- Whether the first line break was escaped, and hence is not among `breaks`. -/
  escaped : Bool := false

namespace Gap

/-- Whether a line ends in the run. -/
def isBroken (g : Gap) : Bool := g.escaped || !g.breaks.isEmpty

/-- The text that a run counts as. -/
def fold (g : Gap) : List Char :=
  if g.escaped then g.breaks
  else match g.breaks with
    | [] => g.blanks
    | ['\n'] => [' ']
    | '\n' :: more => more
    | breaks => breaks

/-- Read a run. With `indent`, a tab left of that column after a line break is refused. -/
def read? (indent : Option Int) : (fuel : Nat) → Gap → Cursor → Option (Gap × Cursor)
  | 0, g, c => some (g, c)
  | fuel + 1, g, c =>
    match c.peek? with
    | none => some (g, c)
    | some ch =>
      if isBlank ch then
        if g.isBroken then
          if ch = '\t' ∧ indent.any fun i => (c.column : Int) < i then none
          else read? indent fuel g (c.skip 1)
        else read? indent fuel { g with blanks := g.blanks ++ [ch] } (c.skip 1)
      else if isBreak ch then
        let (b, c) := c.takeBreak
        read? indent fuel { g with breaks := g.breaks ++ [b] } c
      else some (g, c)

end Gap

/-! ## Plain scalars -/

/-- A character that separates the parts of flow collections. -/
def isFlowMark (c : Char) : Bool :=
  c == ',' || c == '[' || c == ']' || c == '\x7b' || c == '\x7d'

/-- The part of a plain scalar up to the next blank, line break or mark. In flow collections a
colon before a mark is refused. -/
def readPlainWord? (inFlow : Bool) : (fuel : Nat) → (acc : List Char) → Cursor →
    Option (List Char × Cursor)
  | 0, acc, c => some (acc.reverse, c)
  | fuel + 1, acc, c =>
    match c.peek? with
    | none => some (acc.reverse, c)
    | some ch =>
      let next := c.ahead? 1
      if isBlank ch || isBreak ch then some (acc.reverse, c)
      else if inFlow && ch == ':' && next.any fun n => isFlowMark n || n == '?' then none
      else if (ch == ':' && endsWord next) || (inFlow && isFlowMark ch) then some (acc.reverse, c)
      else readPlainWord? inFlow fuel (ch :: acc) (c.skip 1)

/-- Continue a plain scalar after a run. The answer tells whether it ended after a line break. -/
def readPlainFrom? (inFlow : Bool) (indent : Int) : (fuel : Nat) → (acc : List Char) → Gap →
    Cursor → Option (List Char × Bool × Cursor)
  | 0, acc, g, c => some (acc, g.isBroken, c)
  | fuel + 1, acc, g, c =>
    if c.atDocumentMarker || c.peek? == some '#' then some (acc, g.isBroken, c)
    else do
      let (word, c) ← readPlainWord? inFlow c.rest.length [] c
      let (acc, broken) :=
        if word.isEmpty then (acc, g.isBroken) else (acc ++ g.fold ++ word, false)
      match c.peek? with
      | some ch =>
        if isBlank ch || isBreak ch then
          let start : Gap := if word.isEmpty then g else {}
          let (g, c) ← Gap.read? (some indent) c.rest.length start c
          if !inFlow && (c.column : Int) < indent then pure (acc, g.isBroken, c)
          else readPlainFrom? inFlow indent fuel acc g c
        else pure (acc, broken, c)
      | none => pure (acc, broken, c)

/-- A plain scalar whose continuation lines start at column `indent` or right of it. -/
def readPlain? (inFlow : Bool) (indent : Int) (c : Cursor) : Option (List Char × Bool × Cursor) :=
  readPlainFrom? inFlow indent (c.rest.length + 1) [] {} c

/-! ## Quoted scalars -/

/-- The value of exactly `width` hexadecimal digits. -/
def hexNumber? (width : Nat) (cs : List Char) : Option Nat :=
  let ds := cs.take width
  if ds.length = width then
    ds.foldlM (fun acc d => (Text.hexValue? d).map fun v => acc * 16 + v) 0
  else none

/-- The character of an escape, and how many characters it takes after the backslash. -/
def readEscape? : List Char → Option (Char × Nat)
  | [] => none
  | c :: rest =>
    let coded (width : Nat) : Option (Char × Nat) := do
      let n ← hexNumber? width rest
      if n.isValidChar then pure (Char.ofNat n, width + 1) else none
    match c with
    | '0' => some ('\x00', 1)
    | 'a' => some ('\x07', 1)
    | 'b' => some ('\x08', 1)
    | 't' => some ('\t', 1)
    | '\t' => some ('\t', 1)
    | 'n' => some ('\n', 1)
    | 'v' => some ('\x0b', 1)
    | 'f' => some ('\x0c', 1)
    | 'r' => some ('\r', 1)
    | 'e' => some ('\x1b', 1)
    | ' ' => some (' ', 1)
    | '"' => some ('"', 1)
    | '/' => some ('/', 1)
    | '\\' => some ('\\', 1)
    | 'N' => some ('\u0085', 1)
    | '_' => some ('\u00a0', 1)
    | 'L' => some ('\u2028', 1)
    | 'P' => some ('\u2029', 1)
    | 'x' => coded 2
    | 'u' => coded 4
    | 'U' => coded 8
    | _ => none

/-- Continue a scalar in quotation marks of one kind, with what is read so far in reverse. Double
marks allow escapes. -/
def readQuotedFrom? (mark : Char) : (fuel : Nat) → (acc : List Char) → Cursor →
    Option (List Char × Cursor)
  | 0, _, _ => none
  | fuel + 1, acc, c =>
    if c.atDocumentMarker then none
    else match c.rest with
      | [] => none
      | ch :: rest =>
        if isBlank ch || isBreak ch then do
          let (g, c) ← Gap.read? none c.rest.length {} c
          readQuotedFrom? mark fuel (g.fold.reverse ++ acc) c
        else if ch = mark then
          if mark = '\'' ∧ rest.head? = some '\'' then readQuotedFrom? mark fuel (mark :: acc) (c.skip 2)
          else some (acc.reverse, c.skip 1)
        else if mark = '"' ∧ ch = '\\' then
          if rest.head?.any isBreak then do
            let (_, c) := (c.skip 1).takeBreak
            let (g, c) ← Gap.read? none c.rest.length { escaped := true } c
            readQuotedFrom? mark fuel (g.fold.reverse ++ acc) c
          else do
            let (e, count) ← readEscape? rest
            readQuotedFrom? mark fuel (e :: acc) (c.skip (count + 1))
        else readQuotedFrom? mark fuel (ch :: acc) (c.skip 1)

/-- A scalar in quotation marks, whose opening mark stands here. -/
def readQuoted? (mark : Char) (c : Cursor) : Option (List Char × Cursor) :=
  readQuotedFrom? mark (c.rest.length + 1) [] (c.skip 1)

/-! ## Block scalars -/

/-- What becomes of the line breaks at the end of a block scalar. -/
inductive Chomping where
  /-- All are dropped. -/
  | strip
  /-- One stays. -/
  | clip
  /-- All stay. -/
  | keep
deriving DecidableEq

/-- The sign that stands for a way of chomping. -/
def Chomping.ofSign? : Option Char → Option Chomping
  | some '+' => some .keep
  | some '-' => some .strip
  | _ => none

/-- The digit that gives a block's indentation; zero is refused. -/
def indentDigit? (c : Option Char) : Option Nat :=
  (c.bind Text.digitValue?).filter (0 < ·)

/-- The header of a block scalar after its mark: chomping and indentation, in either order. -/
def readBlockHeader? (c : Cursor) : Option (Chomping × Option Nat × Cursor) :=
  match Chomping.ofSign? c.peek?, c.peek? with
  | some chomping, _ =>
    match c.ahead? 1 with
    | some '0' => none
    | next =>
      match indentDigit? next with
      | some n => some (chomping, some n, c.skip 2)
      | none => some (chomping, none, c.skip 1)
  | none, some '0' => none
  | none, first =>
    match indentDigit? first with
    | some n =>
      match Chomping.ofSign? (c.ahead? 1) with
      | some chomping => some (chomping, some n, c.skip 2)
      | none => some (.clip, some n, c.skip 1)
    | none => some (.clip, none, c)

/-- Read empty lines of a block scalar up to its next line of text. `indent` is its indentation,
if known, and `widest` the widest line of blanks so far. -/
def readBlockBreaks? (indent : Option Nat) : (fuel : Nat) → (widest : Nat) →
    (breaks : List Char) → Cursor → Option (Nat × List Char × Cursor)
  | 0, widest, breaks, c => some (widest, breaks, c)
  | fuel + 1, widest, breaks, c =>
    let left (c : Cursor) : Bool := indent.all fun i => c.column < i
    let spaces := (c.rest.takeWhile (· == ' ')).length
    let c := c.skip (match indent with
      | none => spaces
      | some i => min spaces (i - c.column))
    let widest := max widest c.column
    match c.peek? with
    | some ch =>
      if left c && ch == '\t' then none
      else if isBreak ch then
        let (b, c) := c.takeBreak
        readBlockBreaks? indent fuel widest (breaks ++ [b]) c
      else some (widest, breaks, c)
    | none => some (widest, breaks, c)

/-- Read the lines of a block scalar. `lineBreak` is the break after the line before, `blankBefore`
whether that line started with a blank, and `breaks` the empty lines since. -/
def readBlockLines? (folded : Bool) (indent : Nat) : (fuel : Nat) → (acc : List Char) →
    (lineBreak : List Char) → (blankBefore : Bool) → (breaks : List Char) → Cursor →
    Option (List Char × List Char × List Char × Cursor)
  | 0, acc, lineBreak, _, breaks, c => some (acc, lineBreak, breaks, c)
  | fuel + 1, acc, lineBreak, blankBefore, breaks, c =>
    match c.column == indent, c.peek? with
    | true, some ch =>
      let blankHere := isBlank ch
      let joint :=
        if folded && lineBreak == ['\n'] && !blankBefore && !blankHere then
          if breaks.isEmpty then [' '] else breaks
        else lineBreak ++ breaks
      let (line, c) := c.span fun ch => !isBreak ch
      let (ending, c) := match c.peek? with
        | some _ => let (b, c) := c.takeBreak; ([b], c)
        | none => ([], c)
      match readBlockBreaks? (some indent) c.rest.length 0 [] c with
      | some (_, breaks, c) =>
        readBlockLines? folded indent fuel (acc ++ joint ++ line) ending blankHere breaks c
      | none => none
    | _, _ => some (acc, lineBreak, breaks, c)

/-- A block scalar, whose mark stands here, inside a block at column `outer`. -/
def readBlock? (folded : Bool) (outer : Int) (c : Cursor) : Option (List Char × Cursor) := do
  let (chomping, increment, c) ← readBlockHeader? (c.skip 1)
  let (_, c) := c.span isBlank
  let c := if c.peek? = some '#' then c.skipLine else c
  let c ← match c.peek? with
    | none => some c
    | some ch => if isBreak ch then some c.takeBreak.2 else none
  let given := increment.map fun n => (max outer 0).toNat + n
  let (widest, breaks, c) ← readBlockBreaks? given c.rest.length 0 [] c
  let indent := given.getD (max widest (max (outer + 1) 1).toNat)
  let (text, lineBreak, breaks, c) ← readBlockLines? folded indent c.rest.length [] [] false breaks c
  let ending := match chomping with
    | .strip => []
    | .clip => lineBreak
    | .keep => lineBreak ++ breaks
  pure (text ++ ending, c)

end Catalog.Yaml
