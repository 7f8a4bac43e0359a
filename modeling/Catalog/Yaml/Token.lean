import Catalog.Yaml.ScalarText
import Catalog.Text.Percent
import Catalog.Text.Utf8

/-!
# Tokens of YAML

The text of a YAML stream cut into tokens. Where indentation opens or closes a block a token is
put in, and so is a mark before a text that turns out to be a key when its colon is met.
-/

namespace Catalog.Yaml

/-- How a scalar is written, as far as its value depends on it. -/
inductive ScalarStyle where
  /-- Without marks: the text decides the kind of the value. -/
  | plain
  /-- In quotation marks or as a block: a text. -/
  | marked
deriving DecidableEq

/-- A token. -/
inductive Token where
  /-- A line `%YAML`. -/
  | versionDirective (major minor : Nat)
  /-- A line `%TAG`. -/
  | tagDirective (handle lead : String)
  /-- The marker `---`. -/
  | documentStart
  /-- The marker `...`. -/
  | documentEnd
  /-- A block sequence opens. -/
  | blockSequenceStart
  /-- A block mapping opens. -/
  | blockMappingStart
  /-- A block closes. -/
  | blockEnd
  /-- An opening bracket. -/
  | flowSequenceStart
  /-- A closing bracket. -/
  | flowSequenceEnd
  /-- An opening brace. -/
  | flowMappingStart
  /-- A closing brace. -/
  | flowMappingEnd
  /-- A dash before an item. -/
  | blockEntry
  /-- A comma. -/
  | flowEntry
  /-- What follows is a key. -/
  | key
  /-- What follows is the value of a key. -/
  | value
  /-- A reference to an anchored node. -/
  | alias (name : String)
  /-- The name of the node that follows. -/
  | anchor (name : String)
  /-- The tag of the node that follows. -/
  | tag (handle suffix : String)
  /-- A scalar. -/
  | scalar (text : String) (style : ScalarStyle)
deriving DecidableEq

/-- A place where a key may have started that nothing announces. -/
structure KeyCandidate where
  /-- The number of tokens before it. -/
  position : Nat
  /-- The cursor there. -/
  place : Cursor
  /-- Whether the block would be malformed if it were none. -/
  required : Bool

/-- The state of a scanner between tokens. -/
structure Scanner where
  /-- The text that is left. -/
  cursor : Cursor
  /-- The tokens so far. -/
  tokens : Array Token := #[]
  /-- The column of the innermost block, or -1 outside of all blocks. -/
  indent : Int := -1
  /-- The columns of the blocks around it. -/
  outer : List Int := []
  /-- The candidate for a key outside of flow collections. -/
  blockKey : Option KeyCandidate := none
  /-- The candidates in the open flow collections, innermost first. -/
  flowKeys : List (Option KeyCandidate) := []
  /-- Whether a key may start here. -/
  keyAllowed : Bool := true

namespace Scanner

/-- Whether a flow collection is open. -/
def inFlow (s : Scanner) : Bool := !s.flowKeys.isEmpty

/-- Add a token at the end. -/
def push (s : Scanner) (t : Token) : Scanner := { s with tokens := s.tokens.push t }

/-- The candidate of the innermost collection. -/
def candidate (s : Scanner) : Option KeyCandidate :=
  match s.flowKeys with
  | k :: _ => k
  | [] => s.blockKey

/-- Replace the candidate of the innermost collection. -/
def setCandidate (s : Scanner) (k : Option KeyCandidate) : Scanner :=
  match s.flowKeys with
  | _ :: ks => { s with flowKeys := k :: ks }
  | [] => { s with blockKey := k }

/-- Give up the candidate of the innermost collection. -/
def dropCandidate? (s : Scanner) : Option Scanner :=
  if s.candidate.any (·.required) then none else some (s.setCandidate none)

/-- Note that a key may start here. -/
def noteCandidate? (s : Scanner) : Option Scanner :=
  if s.keyAllowed then
    let required := !s.inFlow && s.indent == (s.cursor.column : Int)
    s.dropCandidate?.map fun s => s.setCandidate (some ⟨s.tokens.size, s.cursor, required⟩)
  else some s

/-- The farthest that a key may reach, in characters. -/
def maxKeyLength : Nat := 1024

/-- A candidate that is out of reach: on another line, or too far back. -/
def isStale (s : Scanner) (k : KeyCandidate) : Bool :=
  k.place.line < s.cursor.line || k.place.index + maxKeyLength < s.cursor.index

/-- Give up the candidates that are out of reach. -/
def dropStale? (s : Scanner) : Option Scanner :=
  let keep (k : Option KeyCandidate) : Option KeyCandidate := k.filter fun k => !s.isStale k
  if s.blockKey.any fun k => k.required && s.isStale k then none
  else some { s with blockKey := keep s.blockKey, flowKeys := s.flowKeys.map keep }

/-- Open a block at a column right of the innermost one; its token goes to `position`. -/
def openBlock (s : Scanner) (column position : Nat) (t : Token) : Scanner :=
  if s.inFlow then s
  else if s.indent < (column : Int) then
    { s with
      indent := column, outer := s.indent :: s.outer
      tokens := (s.tokens.extract 0 position).push t ++ s.tokens.extract position s.tokens.size }
  else s

/-- Close the blocks that lie right of a column, given the columns around them. -/
def closeBlocks (column : Int) (indent : Int) (tokens : Array Token) : List Int → Int × List Int × Array Token
  | [] => (indent, [], tokens)
  | i :: outer =>
    if column < indent then closeBlocks column i (tokens.push .blockEnd) outer
    else (indent, i :: outer, tokens)

/-- Close the blocks that lie right of a column. -/
def closeTo (s : Scanner) (column : Int) : Scanner :=
  if s.inFlow then s
  else
    let (indent, outer, tokens) := closeBlocks column s.indent s.tokens s.outer
    { s with indent, outer, tokens }

/-- Go past blanks, comments and line breaks to the next token. -/
def toNextToken : (fuel : Nat) → Scanner → Scanner
  | 0, s => s
  | fuel + 1, s =>
    let c := if s.cursor.index = 0 ∧ s.cursor.peek? = some '\ufeff' then s.cursor.skip 1 else s.cursor
    let (_, c) := c.span fun ch => ch == ' ' || ((s.inFlow || !s.keyAllowed) && ch == '\t')
    let c := if c.peek? = some '#' then c.skipLine else c
    match c.peek? with
    | some ch =>
      if isBreak ch then
        toNextToken fuel { s with cursor := c.takeBreak.2, keyAllowed := s.keyAllowed || !s.inFlow }
      else { s with cursor := c }
    | none => { s with cursor := c }

/-! ## Tags, anchors and directives -/

/-- A character of the text of a tag; commas and brackets only where `loose`. -/
def isTagChar (loose : Bool) (c : Char) : Bool :=
  isWordChar c || c ∈ [';', '/', '?', ':', '@', '&', '=', '+', '$', '.', '%', '!', '~', '*', '\'', '(', ')']
    || (loose && c ∈ [',', '[', ']'])

/-- Whether every percent sign of a text starts two hexadecimal digits. -/
def percentsComplete : List Char → Bool
  | [] => true
  | '%' :: a :: b :: rest =>
    (Text.hexValue? a).isSome && (Text.hexValue? b).isSome && percentsComplete rest
  | '%' :: _ => false
  | _ :: rest => percentsComplete rest

/-- The text of a tag with its percent escapes undone. -/
def decodeTag? (cs : List Char) : Option (List Char) :=
  if percentsComplete cs then Text.decodeUtf8? (Percent.decode cs) else none

/-- The handle of a tag, and the characters after an exclamation mark that are part of none. -/
def readTag? (c : Cursor) : Option (Token × Cursor) :=
  if c.ahead? 1 = some '<' then do
    let (text, c) := (c.skip 2).span (isTagChar true)
    let text ← decodeTag? text
    if text.isEmpty || c.peek? != some '>' then none
    else pure (.tag "" (String.ofList text), c.skip 1)
  else do
    let (word, after) := (c.skip 1).span isWordChar
    if after.peek? = some '!' then
      let (text, c) := (after.skip 1).span (isTagChar false)
      let text ← decodeTag? text
      if text.isEmpty then none
      else pure (.tag ("!" ++ String.ofList word ++ "!") (String.ofList text), c)
    else
      let (text, c) := after.span (isTagChar false)
      let text ← decodeTag? text
      let suffix := String.ofList (word ++ text)
      pure (if suffix.isEmpty then (.tag "" "!", c) else (.tag "!" suffix, c))

/-- The name of an anchor or a reference. -/
def readName? (c : Cursor) : Option (String × Cursor) :=
  let (name, c) := (c.skip 1).span isWordChar
  let closed := endsWord c.peek? ||
    c.peek?.any fun ch => ch ∈ ['?', ':', ',', ']', '\x7d', '%', '@', '\x60']
  if name.isEmpty || !closed then none else some (String.ofList name, c)

/-- A number of at most nine digits. -/
def readVersionNumber? (c : Cursor) : Option (Nat × Cursor) :=
  let (ds, c) := c.span Text.isAsciiDigit
  if ds.isEmpty || 9 < ds.length then none
  else some (ds.foldl (fun n d => n * 10 + (d.toNat - 48)) 0, c)

/-- The content of a directive after its percent sign, and the end of its line. -/
def readDirective? (c : Cursor) : Option (Token × Cursor) := do
  let (name, c) := (c.skip 1).span isWordChar
  let (token, c) ← match String.ofList name with
    | "YAML" => do
      let (_, c) := c.span isBlank
      let (major, c) ← readVersionNumber? c
      if c.peek? != some '.' then none
      let (minor, c) ← readVersionNumber? (c.skip 1)
      pure (.versionDirective major minor, c)
    | "TAG" => do
      let (_, c) := c.span isBlank
      if c.peek? != some '!' then none
      let (word, c) := (c.skip 1).span isWordChar
      let (handle, c) ← match c.peek? with
        | some '!' => some ("!" ++ String.ofList word ++ "!", c.skip 1)
        | _ => if word.isEmpty then some ("!", c) else none
      if !c.peek?.any isBlank then none
      let (_, c) := c.span isBlank
      let (lead, c) := c.span (isTagChar true)
      let lead ← decodeTag? lead
      if lead.isEmpty || !endsWord c.peek? then none
      pure (.tagDirective handle (String.ofList lead), c)
    | _ => none
  let (_, c) := c.span isBlank
  let c := if c.peek? = some '#' then c.skipLine else c
  match c.peek? with
  | none => pure (token, c)
  | some ch => if isBreak ch then pure (token, c.takeBreak.2) else none

/-! ## One token at a time -/

/-- Leave all blocks, as a directive or a marker of documents does. -/
def leaveBlocks? (s : Scanner) : Option Scanner :=
  (s.closeTo (-1)).dropCandidate?.map fun s => { s with keyAllowed := false }

/-- Add a token of some characters. -/
def take (s : Scanner) (count : Nat) (t : Token) : Scanner :=
  { s with cursor := s.cursor.skip count }.push t

/-- An opening bracket or brace. -/
def openFlow? (s : Scanner) (t : Token) : Option Scanner :=
  s.noteCandidate?.map fun s => { s with flowKeys := none :: s.flowKeys, keyAllowed := true }.take 1 t

/-- A closing bracket or brace. -/
def closeFlow? (s : Scanner) (t : Token) : Option Scanner :=
  s.dropCandidate?.map fun s => { s with flowKeys := s.flowKeys.tail, keyAllowed := false }.take 1 t

/-- A dash or a question mark, which may open a block. -/
def announce? (s : Scanner) (opening t : Token) (keyAfter : Bool) : Option Scanner :=
  if !s.inFlow && !s.keyAllowed then none
  else
    let s := s.openBlock s.cursor.column s.tokens.size opening
    s.dropCandidate?.map fun s => { s with keyAllowed := keyAfter }.take 1 t

/-- A colon: what is before it on its line becomes a key. -/
def takeValue? (s : Scanner) : Option Scanner :=
  match s.candidate with
  | some k =>
    let s := { s with
      tokens := (s.tokens.extract 0 k.position).push .key ++ s.tokens.extract k.position s.tokens.size }
    let s := s.openBlock k.place.column k.position .blockMappingStart
    some ({ s.setCandidate none with keyAllowed := false }.take 1 .value)
  | none =>
    if !s.inFlow && !s.keyAllowed then none
    else
      let s := s.openBlock s.cursor.column s.tokens.size .blockMappingStart
      some ({ s with keyAllowed := !s.inFlow }.take 1 .value)

/-- Add a token that may be a key, or start one, and go on at a cursor. -/
def content? (s : Scanner) (token : Option (Token × Cursor)) : Option Scanner := do
  let s ← s.noteCandidate?
  let (t, c) ← token
  pure ({ s with keyAllowed := false, cursor := c }.push t)

/-- Whether a plain scalar starts here. -/
def plainStarts (inFlow : Bool) (ch : Char) (next : Option Char) : Bool :=
  if ch = '-' then !endsWord next
  else if ch = '?' ∨ ch = ':' then !inFlow && !endsWord next
  else !(isBlank ch || isBreak ch ||
    ch ∈ [',', '[', ']', '\x7b', '\x7d', '#', '&', '*', '!', '|', '>', '\'', '"', '%', '@', '\x60'])

/-- The next token, when blanks are passed and blocks closed. -/
def step? (s : Scanner) (ch : Char) : Option Scanner :=
  let c := s.cursor
  let next := c.ahead? 1
  let marked (read : Option (List Char × Cursor)) : Option (Token × Cursor) :=
    read.map fun (text, c) => (.scalar (String.ofList text) .marked, c)
  if c.column = 0 ∧ ch = '%' then do
    let s ← s.leaveBlocks?
    let (t, c) ← readDirective? c
    pure ({ s with cursor := c }.push t)
  else if c.atMarker '-' then s.leaveBlocks?.map (·.take 3 .documentStart)
  else if c.atMarker '.' then s.leaveBlocks?.map (·.take 3 .documentEnd)
  else match ch with
    | '[' => s.openFlow? .flowSequenceStart
    | '\x7b' => s.openFlow? .flowMappingStart
    | ']' => s.closeFlow? .flowSequenceEnd
    | '\x7d' => s.closeFlow? .flowMappingEnd
    | ',' => s.dropCandidate?.map fun s => { s with keyAllowed := true }.take 1 .flowEntry
    | '*' => s.content? ((readName? c).map fun (name, c) => (.alias name, c))
    | '&' => s.content? ((readName? c).map fun (name, c) => (.anchor name, c))
    | '!' => s.content? do
      let (t, c) ← readTag? c
      if endsWord c.peek? || (s.inFlow && c.peek? == some ',') then pure (t, c) else none
    | '\'' => s.content? (marked (readQuoted? '\'' c))
    | '"' => s.content? (marked (readQuoted? '"' c))
    | _ =>
      if ch = '-' ∧ endsWord next then s.announce? .blockSequenceStart .blockEntry true
      else if ch = '?' ∧ (s.inFlow || endsWord next) then
        s.announce? .blockMappingStart .key (!s.inFlow)
      else if ch = ':' ∧ (s.inFlow || endsWord next) then s.takeValue?
      else if (ch = '|' ∨ ch = '>') ∧ !s.inFlow then do
        let s ← s.dropCandidate?
        let (t, c) ← marked (readBlock? (ch == '>') s.indent c)
        pure ({ s with keyAllowed := true, cursor := c }.push t)
      else if plainStarts s.inFlow ch next then do
        let s ← s.noteCandidate?
        let (text, broken, c) ← readPlain? s.inFlow (s.indent + 1) c
        pure ({ s with keyAllowed := broken, cursor := c }.push (.scalar (String.ofList text) .plain))
      else none

/-- Read tokens to the end of the text. -/
def run? : (fuel : Nat) → Scanner → Option (Array Token)
  | 0, _ => none
  | fuel + 1, s => do
    let s := s.toNextToken (s.cursor.rest.length + 1)
    let s ← s.dropStale?
    let s := s.closeTo s.cursor.column
    match s.cursor.peek? with
    | some ch => run? fuel (← s.step? ch)
    | none =>
      let s ← s.leaveBlocks?
      pure s.tokens

end Scanner

/-- A character that may stand in a stream. -/
def isStreamChar (c : Char) : Bool :=
  c == '\t' || c == '\n' || c == '\r' || (' ' ≤ c && c ≤ '~') || c == '\u0085'
    || ('\u00a0' ≤ c && c ≤ '\ufffd') || 0x10000 ≤ c.val

/-- The tokens of a text, if it consists of tokens. -/
def tokens? (text : String) : Option (List Token) :=
  let cs := text.toList
  if cs.all isStreamChar then ((Scanner.run? (cs.length + 1) { cursor := { rest := cs } }).map (·.toList))
  else none

end Catalog.Yaml
