import Catalog.Pattern.Syntax
import Catalog.Text.Blank
import Catalog.Unicode.Lookup

/-!
# Reading regular expressions

The grammar has no look-around and no back references. In verbose mode blanks and comments stand
for nothing between the parts of a pattern. Every reader takes the front of a text and returns the
rest.
-/

namespace Catalog.Pattern

/-- Skip blanks and comments; `inComment` says whether the text starts inside a comment. -/
def skipVerbose : (inComment : Bool) → List Char → List Char
  | _, [] => []
  | true, c :: cs => skipVerbose (c != '\n') cs
  | false, c :: cs =>
    if Text.isBlank c then skipVerbose false cs
    else if c = '#' then skipVerbose true cs
    else c :: cs

/-- Skip what stands for nothing. -/
def skip (verbose : Bool) (cs : List Char) : List Char :=
  if verbose then skipVerbose false cs else cs

/-- Pass one character and what stands for nothing after it. -/
def advance (verbose : Bool) (cs : List Char) : List Char :=
  skip verbose (cs.drop 1)

/-- The next character that counts, looking past blanks and the mark of one comment. -/
def peekVerbose : (inComment : Bool) → List Char → Option Char
  | _, [] => none
  | inComment, c :: cs =>
    if Text.isBlank c then peekVerbose inComment cs
    else if c = '#' ∧ inComment = false then peekVerbose true cs
    else some c

/-- The character after the present one. -/
def peekAfter (verbose : Bool) (cs : List Char) : Option Char :=
  if verbose then peekVerbose false (cs.drop 1) else (cs.drop 1).head?

/-- Punctuation with a meaning in patterns, all of which may be escaped. -/
def isMeta (c : Char) : Bool :=
  "\\.+*?()|[]\x7b\x7d^$#&-~".toList.contains c

/-- Characters that stand for themselves after a backslash: ASCII other than letters, digits and
angle brackets. -/
def isEscapable (c : Char) : Bool :=
  isMeta c || (c.toNat < 0x80 && !Text.isAsciiLetter c && !Text.isAsciiDigit c
    && c != '<' && c != '>')

/-- The character of a code point, unless it is a surrogate or too large. -/
def charOfCode? (n : Nat) : Option Char :=
  if h : n.isValidChar then some (Char.ofNatAux n h) else none

/-- The number of hexadecimal digits. -/
def hexNumber? (cs : List Char) : Option Nat :=
  cs.foldlM (fun n c => (Text.hexValue? c).map fun d => n * 16 + d) 0

/-- Collect what stands before a closing brace. -/
def untilBrace? (verbose : Bool) : (fuel : Nat) → (acc : List Char) → List Char →
    Option (List Char × List Char)
  | 0, _, _ => none
  | _ + 1, _, [] => none
  | fuel + 1, acc, c :: cs =>
    if c = '\x7d' then some (acc.reverse, cs)
    else untilBrace? verbose fuel (c :: acc) (skip verbose cs)

/-- Read exactly `count` hexadecimal digits. -/
def fixedHex? (verbose : Bool) : (count : Nat) → (acc : List Char) → List Char →
    Option (List Char × List Char)
  | 0, acc, cs => some (acc.reverse, cs)
  | count + 1, acc, cs =>
    match cs with
    | [] => none
    | c :: cs =>
      if (Text.hexValue? c).isSome then fixedHex? verbose count (c :: acc) (skip verbose cs)
      else none

/-- Read the number of an escape after its letter: `width` digits, or digits in braces. -/
def readHex? (verbose : Bool) (width : Nat) (cs : List Char) : Option (Literal × List Char) :=
  match skip verbose cs with
  | '\x7b' :: rest => do
    let (digits, rest) ← untilBrace? verbose (rest.length + 1) [] (skip verbose rest)
    if digits.isEmpty || 16 < digits.length && (hexNumber? digits).isNone then none
    else
      let c ← charOfCode? (← hexNumber? digits)
      some (⟨c, false⟩, skip verbose rest)
  | rest => do
    let (digits, rest) ← fixedHex? verbose width [] rest
    let c ← charOfCode? (← hexNumber? digits)
    some (⟨c, width == 2⟩, rest)

/-- Split a property at the first of its separators. -/
def propertyQuery (cs : List Char) : PropertyQuery × Bool :=
  let unequal := (List.range cs.length).find? fun i => (cs.drop i).take 2 == ['!', '=']
  match unequal with
  | some i => (.value (cs.take i) (cs.drop (i + 2)), true)
  | none =>
    match Text.splitFirst? ':' cs with
    | some (property, value) => (.value property value, false)
    | none =>
      match Text.splitFirst? '=' cs with
      | some (property, value) => (.value property value, false)
      | none => (.name cs, false)

/-- Read a property after its letter. -/
def readProperty? (verbose negated : Bool) (cs : List Char) : Option (CharClass × List Char) :=
  match skip verbose cs with
  | [] => none
  | '\x7b' :: rest => do
    let (name, rest) ← untilBrace? verbose (rest.length + 1) [] (skip verbose rest)
    let (query, unequal) := propertyQuery name
    some (.property query (negated != unequal), rest)
  | c :: rest =>
    if c = '\\' then none
    else some (.property (.name [c]) negated, skip verbose rest)

/-- A character of the names of special boundaries. -/
def isBoundaryChar (c : Char) : Bool :=
  Text.isAsciiLetter c || c == '-'

/-- Collect the name of a special boundary. -/
def boundaryName (verbose : Bool) : (fuel : Nat) → (acc : List Char) → List Char →
    List Char × List Char
  | 0, acc, cs => (acc.reverse, cs)
  | _ + 1, acc, [] => (acc.reverse, [])
  | fuel + 1, acc, c :: cs =>
    if isBoundaryChar c then boundaryName verbose fuel (c :: acc) (skip verbose cs)
    else (acc.reverse, c :: cs)

/-- Read what follows a word boundary: a name in braces makes it a special one. Braces that hold
no name are left to be read as a repetition. -/
def readBoundary? (verbose : Bool) (cs : List Char) : Option (Place × List Char) :=
  match cs with
  | '\x7b' :: rest =>
    match skip verbose rest with
    | [] => none
    | c :: inner =>
      if isBoundaryChar c then
        match boundaryName verbose ((c :: inner).length + 1) [] (c :: inner) with
        | (name, '\x7d' :: rest) =>
          match String.ofList name with
          | "start" => some (.wordStart, rest)
          | "end" => some (.wordEnd, rest)
          | "start-half" => some (.wordStartHalf, rest)
          | "end-half" => some (.wordEndHalf, rest)
          | _ => none
        | _ => none
      else some (.wordBoundary, cs)
  | cs => some (.wordBoundary, cs)

/-- Read an escape after its backslash. -/
def readEscape? (verbose : Bool) : List Char → Option (Syntax × List Char)
  | [] => none
  | c :: cs =>
    let char (d : Char) : Option (Syntax × List Char) := some (.literal ⟨d, false⟩, cs)
    let short (s : ShortClass) (negated : Bool) : Option (Syntax × List Char) :=
      some (.charClass (.short s negated), cs)
    let place (p : Place) : Option (Syntax × List Char) := some (.place p, cs)
    match c with
    | 'x' => (readHex? verbose 2 cs).map fun (l, rest) => (.literal l, rest)
    | 'u' => (readHex? verbose 4 cs).map fun (l, rest) => (.literal l, rest)
    | 'U' => (readHex? verbose 8 cs).map fun (l, rest) => (.literal l, rest)
    | 'p' => (readProperty? verbose false cs).map fun (p, rest) => (.charClass p, rest)
    | 'P' => (readProperty? verbose true cs).map fun (p, rest) => (.charClass p, rest)
    | 'd' => short .digit false
    | 'D' => short .digit true
    | 's' => short .space false
    | 'S' => short .space true
    | 'w' => short .word false
    | 'W' => short .word true
    | 'a' => char '\x07'
    | 'f' => char '\x0c'
    | 't' => char '\t'
    | 'n' => char '\n'
    | 'r' => char '\r'
    | 'v' => char '\x0b'
    | 'A' => place .textStart
    | 'z' => place .textEnd
    | 'b' => (readBoundary? verbose cs).map fun (p, rest) => (.place p, rest)
    | 'B' => place .notWordBoundary
    | '<' => place .wordStart
    | '>' => place .wordEnd
    | c => if isEscapable c then char c else none

/-! ## Classes in brackets -/

/-- The ranges of a named ASCII class. -/
def asciiClass? (name : String) : Option (List (Nat × Nat)) :=
  match name with
  | "alnum" => some [(0x30, 0x39), (0x41, 0x5A), (0x61, 0x7A)]
  | "alpha" => some [(0x41, 0x5A), (0x61, 0x7A)]
  | "ascii" => some [(0x00, 0x7F)]
  | "blank" => some [(0x09, 0x09), (0x20, 0x20)]
  | "cntrl" => some [(0x00, 0x1F), (0x7F, 0x7F)]
  | "digit" => some [(0x30, 0x39)]
  | "graph" => some [(0x21, 0x7E)]
  | "lower" => some [(0x61, 0x7A)]
  | "print" => some [(0x20, 0x7E)]
  | "punct" => some [(0x21, 0x2F), (0x3A, 0x40), (0x5B, 0x60), (0x7B, 0x7E)]
  | "space" => some [(0x09, 0x0D), (0x20, 0x20)]
  | "upper" => some [(0x41, 0x5A)]
  | "word" => some [(0x30, 0x39), (0x41, 0x5A), (0x5F, 0x5F), (0x61, 0x7A)]
  | "xdigit" => some [(0x30, 0x39), (0x41, 0x46), (0x61, 0x66)]
  | _ => none

/-- Read a named ASCII class after its opening bracket. -/
def readAsciiClass? (cs : List Char) : Option (CharClass × List Char) :=
  match cs with
  | ':' :: rest =>
    let (negated, rest) := match rest with
      | '^' :: rest => (true, rest)
      | rest => (false, rest)
    match rest.dropWhile (· != ':') with
    | ':' :: ']' :: after =>
      (asciiClass? (String.ofList (rest.takeWhile (· != ':')))).map fun ranges =>
        (.ascii ranges negated, after)
    | _ => none
  | _ => none

/-- Read one item of a class: an escape or a character. -/
def readClassItem? (verbose : Bool) : List Char → Option (Syntax × List Char)
  | [] => none
  | '\\' :: cs => readEscape? verbose cs
  | c :: cs => some (.literal ⟨c, false⟩, cs)

/-- An item as a set, if it is one. -/
def setOfItem? : Syntax → Option CharClass
  | .literal l => some (.literal l)
  | .charClass c => some c
  | _ => none

/-- Read an item of a class, or a range between two characters. -/
def readClassRange? (verbose : Bool) (cs : List Char) : Option (CharClass × List Char) := do
  let (first, rest) ← readClassItem? verbose cs
  match skip verbose rest with
  | [] => none
  | '-' :: after =>
    let next := peekAfter verbose ('-' :: after)
    if next == some ']' || next == some '-' then some (← setOfItem? first, '-' :: after)
    else
      match skip verbose after with
      | [] => none
      | after =>
        let (second, rest) ← readClassItem? verbose after
        match first, second with
        | .literal low, .literal high =>
          if low.char ≤ high.char then some (.range low high, rest) else none
        | _, _ => none
  | rest => some (← setOfItem? first, rest)

/-- Collect dashes at the start of a class. -/
def leadingDashes (verbose : Bool) : (fuel : Nat) → (acc : List CharClass) → List Char →
    List CharClass × List Char
  | 0, acc, cs => (acc, cs)
  | fuel + 1, acc, '-' :: cs =>
    leadingDashes verbose fuel (CharClass.literal ⟨'-', false⟩ :: acc) (skip verbose cs)
  | _ + 1, acc, cs => (acc, cs)

/-- What a class opens with after its bracket: whether it is negated, and the dashes or the
closing bracket that stand for themselves at its start. -/
def openClass? (verbose : Bool) (cs : List Char) : Option (Bool × List CharClass × List Char) :=
  let cs := skip verbose cs
  let (negated, cs) := match cs with
    | '^' :: rest => (true, skip verbose rest)
    | cs => (false, cs)
  let (items, cs) := leadingDashes verbose (cs.length + 1) [] cs
  let (items, cs) := match items, cs with
    | [], ']' :: rest => ([CharClass.literal ⟨']', false⟩], skip verbose rest)
    | items, cs => (items, cs)
  if cs.isEmpty then none else some (negated, items, cs)

/-- What an unfinished class waits for. -/
inductive ClassFrame where
  /-- The closing bracket; `outer` are the items of the class around it. -/
  | bracket (negated : Bool) (outer : List CharClass)
  /-- The right side of an operator. -/
  | operator (op : SetOperator) (left : CharClass)

/-- Finish an operator that waits for its right side. -/
def closeOperator (right : CharClass) : List ClassFrame → CharClass × List ClassFrame
  | .operator op left :: stack => (.binary op left right, stack)
  | stack => (right, stack)

/-- Read the rest of a class; `items` are those read since the last bracket or operator, the last
one first. -/
def readClass? (verbose : Bool) : (fuel : Nat) → List ClassFrame → (items : List CharClass) →
    List Char → Option (CharClass × List Char)
  | 0, _, _, _ => none
  | fuel + 1, stack, items, cs =>
    let operator (op : SetOperator) (rest : List Char) :=
      let (left, stack) := closeOperator (CharClass.unionOf items) stack
      readClass? verbose fuel (.operator op left :: stack) [] rest
    match skip verbose cs with
    | [] => none
    | '[' :: rest =>
      match readAsciiClass? rest with
      | some (set, rest) => readClass? verbose fuel stack (set :: items) rest
      | none =>
        match openClass? verbose rest with
        | none => none
        | some (negated, inner, rest) =>
          readClass? verbose fuel (.bracket negated items :: stack) inner rest
    | ']' :: rest =>
      let (set, stack) := closeOperator (CharClass.unionOf items) stack
      match stack with
      | [.bracket negated _] => some (.bracketed negated set, rest)
      | .bracket negated outer :: stack =>
        readClass? verbose fuel stack (.bracketed negated set :: outer) rest
      | _ => none
    | '&' :: '&' :: rest => operator .intersection rest
    | '-' :: '-' :: rest => operator .difference rest
    | '~' :: '~' :: rest => operator .symmetricDifference rest
    | rest =>
      match readClassRange? verbose rest with
      | none => none
      | some (set, rest) => readClass? verbose fuel stack (set :: items) rest

/-! ## Groups and repetitions -/

/-- The flag of a letter. -/
def flagOf? (c : Char) : Option Flag :=
  match c with
  | 'i' => some .ignoreCase
  | 'm' => some .multiLine
  | 's' => some .dotAll
  | 'U' => some .swapGreed
  | 'u' => some .unicode
  | 'R' => some .crlf
  | 'x' => some .verbose
  | _ => none

/-- Read flags up to a colon or a closing parenthesis, which is returned with them. A flag may
stand once, a minus sign too, and not at the end. -/
def readFlags? : (negated dangling : Bool) → (acc : FlagSettings) → List Char →
    Option (FlagSettings × Char × List Char)
  | _, _, _, [] => none
  | negated, dangling, acc, c :: cs =>
    if c = ':' ∨ c = ')' then if dangling then none else some (acc.reverse, c, cs)
    else if c = '-' then if negated then none else readFlags? true true acc cs
    else
      match flagOf? c with
      | none => none
      | some flag =>
        if acc.any fun setting => setting.1 == flag then none
        else readFlags? negated false ((flag, !negated) :: acc) cs

/-- A character of the name of a group. -/
def isNameChar (first : Bool) (c : Char) : Bool :=
  c == '_' || Unicode.alphabetic.contains c.toNat
    || (!first && (c == '.' || c == '[' || c == ']' || Unicode.numeric.contains c.toNat))

/-- Read the name of a group up to its closing angle bracket. -/
def readName? : (acc : List Char) → List Char → Option (String × List Char)
  | _, [] => none
  | acc, c :: cs =>
    if c = '>' then if acc.isEmpty then none else some (String.ofList acc.reverse, cs)
    else if isNameChar acc.isEmpty c then readName? (c :: acc) cs
    else none

/-- Read a number below `2 ^ 32`, with blanks around it. -/
def readCount? (verbose : Bool) (cs : List Char) : Option (Nat × List Char) :=
  let rec digits : (fuel : Nat) → (acc : List Char) → List Char → List Char × List Char
    | 0, acc, cs => (acc.reverse, cs)
    | _ + 1, acc, [] => (acc.reverse, [])
    | fuel + 1, acc, c :: cs =>
      if Text.isAsciiDigit c then digits fuel (c :: acc) (skip verbose cs)
      else (acc.reverse, c :: cs)
  let cs := Text.trimStart cs
  let (ds, rest) := digits (cs.length + 1) [] cs
  let n := Numeral.ofDigits ds
  if ds.isEmpty || 0x100000000 ≤ n then none else some (n, skip verbose (Text.trimStart rest))

/-- Read the bounds of a repetition after the opening brace. -/
def readBounds? (verbose : Bool) (cs : List Char) : Option (Nat × Option Nat × List Char) := do
  let (least, rest) ← readCount? verbose (skip verbose cs)
  let (most, rest) ← match rest with
    | ',' :: rest =>
      match skip verbose rest with
      | '\x7d' :: rest => some (none, '\x7d' :: rest)
      | rest => (readCount? verbose rest).map fun (n, rest) => (some n, rest)
    | rest => some (some least, rest)
  match rest with
  | '\x7d' :: rest =>
    -- A question mark after the braces makes the repetition lazy.
    let rest := match skip verbose rest with
      | '?' :: rest => rest
      | rest => rest
    match most with
    | some most => if least ≤ most then some (least, some most, rest) else none
    | none => some (least, none, rest)
  | _ => none

/-- A group that is not closed yet. -/
structure Frame where
  /-- Whether the group captures. -/
  captures : Bool
  /-- Flags of the group. -/
  settings : FlagSettings
  /-- Branches read before the group in the group around it, the last one first. -/
  branches : List Syntax
  /-- Parts read before the group in its branch, the last one first. -/
  parts : List Syntax
  /-- Verbose mode around the group. -/
  verbose : Bool

/-- The state of the reader. -/
structure ReaderState where
  /-- Groups around, the innermost first. -/
  stack : List Frame := []
  /-- Branches of the present group, the last one first. -/
  branches : List Syntax := []
  /-- Parts of the present branch, the last one first. -/
  parts : List Syntax := []
  /-- Verbose mode. -/
  verbose : Bool := false
  /-- Names of groups. -/
  names : List String := []

namespace ReaderState

/-- Add a part. -/
def push (s : ReaderState) (part : Syntax) : ReaderState :=
  { s with parts := part :: s.parts }

/-- What the present group holds. -/
def body (s : ReaderState) : Syntax :=
  Syntax.alternationOf (Syntax.concatOf s.parts :: s.branches)

/-- Open a group. -/
def enter (s : ReaderState) (captures : Bool) (settings : FlagSettings) : ReaderState :=
  { s with
    stack := ⟨captures, settings, s.branches, s.parts, s.verbose⟩ :: s.stack
    branches := []
    parts := []
    verbose := (settings.lookup .verbose).getD s.verbose }

/-- Close the present group. -/
def leave? (s : ReaderState) : Option ReaderState :=
  match s.stack with
  | [] => none
  | frame :: stack =>
    some { s with
      stack := stack
      branches := frame.branches
      parts := .group frame.captures frame.settings s.body :: frame.parts
      verbose := frame.verbose }

/-- Repeat the last part. There must be one, and it must be more than flags. -/
def repeat? (s : ReaderState) (least : Nat) (most : Option Nat) : Option ReaderState :=
  match s.parts with
  | [] => none
  | .empty :: _ => none
  | .flags _ :: _ => none
  | part :: parts => some { s with parts := .repetition least most part :: parts }

/-- Read what follows an opening parenthesis. -/
def open? (s : ReaderState) (cs : List Char) : Option (ReaderState × List Char) :=
  let named (rest : List Char) : Option (ReaderState × List Char) := do
    let (name, rest) ← readName? [] rest
    if name ∈ s.names then none
    else some ({ s.enter true [] with names := name :: s.names }, rest)
  match skip s.verbose cs with
  | '?' :: '=' :: _ => none
  | '?' :: '!' :: _ => none
  | '?' :: '<' :: '=' :: _ => none
  | '?' :: '<' :: '!' :: _ => none
  | '?' :: 'P' :: '<' :: rest => named rest
  | '?' :: '<' :: rest => named rest
  | '?' :: rest => do
    let (settings, last, rest) ← readFlags? false false [] rest
    if last = ':' then some (s.enter false settings, rest)
    else if settings.isEmpty then none
    else
      some ({ s.push (.flags settings) with
        verbose := (settings.lookup .verbose).getD s.verbose }, rest)
  | rest => some (s.enter true [], rest)

/-- A question mark after a repetition makes it lazy, which changes no match. -/
def skipLazy : List Char → List Char
  | '?' :: rest => rest
  | rest => rest

/-- Read one part of a pattern. -/
def step? (s : ReaderState) (c : Char) (rest : List Char) : Option (ReaderState × List Char) :=
  match c with
  | '(' => s.open? rest
  | ')' => s.leave?.map fun s => (s, rest)
  | '|' => some ({ s with branches := Syntax.concatOf s.parts :: s.branches, parts := [] }, rest)
  | '[' => do
    let (negated, items, rest) ← openClass? s.verbose rest
    let (set, rest) ← readClass? s.verbose (rest.length + 1) [.bracket negated []] items rest
    some (s.push (.charClass set), rest)
  | '?' => (s.repeat? 0 (some 1)).map fun s => (s, skipLazy rest)
  | '*' => (s.repeat? 0 none).map fun s => (s, skipLazy rest)
  | '+' => (s.repeat? 1 none).map fun s => (s, skipLazy rest)
  | '\x7b' => do
    -- There must be something to repeat, whatever the bounds are.
    let _ ← s.repeat? 0 none
    let (least, most, rest) ← readBounds? s.verbose rest
    let s ← s.repeat? least most
    some (s, rest)
  | '\\' => (readEscape? s.verbose rest).map fun (part, rest) => (s.push part, rest)
  | '.' => some (s.push .dot, rest)
  | '^' => some (s.push (.place .lineStart), rest)
  | '$' => some (s.push (.place .lineEnd), rest)
  | c => some (s.push (.literal ⟨c, false⟩), rest)

/-- Read part after part to the end. -/
def run? : (fuel : Nat) → ReaderState → List Char → Option Syntax
  | 0, _, _ => none
  | fuel + 1, s, cs =>
    match skip s.verbose cs with
    | [] => if s.stack.isEmpty then some s.body else none
    | c :: rest =>
      match s.step? c rest with
      | none => none
      | some (s, rest) => run? fuel s rest

end ReaderState

/-- The greatest nesting of a pattern. -/
def maxNesting : Nat := 250

/-- Read a pattern. -/
def Syntax.parse? (source : List Char) : Option Syntax := do
  let syn ← ReaderState.run? (source.length + 1) {} source
  if syn.depth ≤ maxNesting then some syn else none

end Catalog.Pattern
