import Catalog.Pattern.Parser

/-!
# Expressions over characters

What a regular expression means once its flags are settled: sets of code points, places and the
operators between them. Flags hold from where they stand to the end of their group, also across
its alternatives.
-/

namespace Catalog.Pattern

/-- A place, with its flags settled. -/
inductive Anchor where
  /-- Before the first character. -/
  | textStart
  /-- After the last character. -/
  | textEnd
  /-- At the start of a line. -/
  | lineStart
  /-- At the end of a line. -/
  | lineEnd
  /-- At the start of a line, where a carriage return and a line feed end one line. -/
  | crlfStart
  /-- At the end of a line, where a carriage return and a line feed end one line. -/
  | crlfEnd
  /-- A place at a word; `ascii` takes ASCII words alone. -/
  | word (place : Place) (ascii : Bool)
deriving DecidableEq, Repr

/-- A regular expression over sets of characters. -/
inductive Expr where
  /-- The empty text. -/
  | empty
  /-- One character of a set. -/
  | chars (set : RangeSet)
  /-- The empty text at a place. -/
  | anchor (a : Anchor)
  /-- A group that captures. -/
  | capture (body : Expr)
  /-- One after the other. -/
  | seq (left right : Expr)
  /-- Either. -/
  | alt (left right : Expr)
  /-- A repetition. -/
  | repetition (least : Nat) (most : Option Nat) (body : Expr)
deriving Inhabited

/-- The flags that change what a pattern means. -/
structure Flags where
  /-- Ignore the case of letters. -/
  ignoreCase : Bool := false
  /-- Let `^` and `$` match at lines. -/
  multiLine : Bool := false
  /-- Let the dot match line ends. -/
  dotAll : Bool := false
  /-- Lines end with a carriage return too. -/
  crlf : Bool := false
  /-- Classes and folding of all of Unicode. -/
  unicode : Bool := true

namespace Flags

/-- Change one flag. -/
def set (flags : Flags) : Flag × Bool → Flags
  | (.ignoreCase, b) => { flags with ignoreCase := b }
  | (.multiLine, b) => { flags with multiLine := b }
  | (.dotAll, b) => { flags with dotAll := b }
  | (.crlf, b) => { flags with crlf := b }
  | (.unicode, b) => { flags with unicode := b }
  | (.swapGreed, _) => flags
  | (.verbose, _) => flags

/-- Change flags one after the other. -/
def setAll (flags : Flags) (settings : FlagSettings) : Flags :=
  settings.foldl set flags

/-- The greatest member of a class. -/
def bound (flags : Flags) : Nat :=
  if flags.unicode then RangeSet.maxCodePoint else RangeSet.maxByte

end Flags

/-- The ASCII letters that agree with each other. -/
def foldAscii (set : RangeSet) : RangeSet :=
  let added := (List.range 26).flatMap fun i =>
    let n := 0x41 + i
    if set.contains n || set.contains (n + 32) then [(n, n), (n + 32, n + 32)] else []
  RangeSet.union (RangeSet.normalize added) set

/-- Close a set under case folding where case is ignored. -/
def foldCase (flags : Flags) (set : RangeSet) : RangeSet :=
  if !flags.ignoreCase then set
  else if flags.unicode then Unicode.foldSet set
  else foldAscii set

/-- Complement a set where asked to. -/
def negateIf (flags : Flags) (negated : Bool) (set : RangeSet) : RangeSet :=
  if negated then set.complement flags.bound else set

/-- The code of a literal in a class. Outside Unicode only ASCII and bytes have one. -/
def classCode? (flags : Flags) (l : Literal) : Option Nat :=
  if flags.unicode then some l.char.toNat
  else if l.char.toNat < 0x80 then some l.char.toNat
  else none

/-- The set of a property. -/
def propertySet? : PropertyQuery → Option RangeSet
  | .name name => Unicode.byName? name
  | .value property value => Unicode.byValue? property value

/-- The set of a class of a single letter. -/
def shortSet (flags : Flags) : ShortClass → RangeSet
  | .digit => if flags.unicode then Unicode.digits else [(0x30, 0x39)]
  | .space => if flags.unicode then Unicode.whiteSpace else [(0x09, 0x0D), (0x20, 0x20)]
  | .word =>
    if flags.unicode then Unicode.wordCharacters
    else [(0x30, 0x39), (0x41, 0x5A), (0x5F, 0x5F), (0x61, 0x7A)]

mutual

/-- The set of a class. Case is folded before a set is complemented or joined by an operator. -/
def CharClass.set? (flags : Flags) : CharClass → Option RangeSet
  | .empty => some []
  | .literal l => (classCode? flags l).map fun n => [(n, n)]
  | .range low high => do
    let low ← classCode? flags low
    let high ← classCode? flags high
    some [(low, high)]
  | .ascii ranges negated => some (negateIf flags negated (foldCase flags ranges))
  | .short c negated => some (negateIf flags negated (shortSet flags c))
  | .property query negated =>
    if flags.unicode then
      (propertySet? query).map fun set => negateIf flags negated (foldCase flags set)
    else none
  | .bracketed negated inner =>
    (inner.set? flags).map fun set => negateIf flags negated (foldCase flags set)
  | .union sets => CharClass.unionSet? flags sets
  | .binary op left right => do
    let left := foldCase flags (← left.set? flags)
    let right := foldCase flags (← right.set? flags)
    some (match op with
      | .intersection => RangeSet.inter flags.bound left right
      | .difference => RangeSet.diff flags.bound left right
      | .symmetricDifference => RangeSet.symmDiff flags.bound left right)

/-- The union of the sets of classes. -/
def CharClass.unionSet? (flags : Flags) : List CharClass → Option RangeSet
  | [] => some []
  | c :: cs => do
    let set ← c.set? flags
    let rest ← CharClass.unionSet? flags cs
    some (RangeSet.union set rest)

end

/-- A class as an expression. Outside Unicode it must not hold bytes above ASCII, for these are no
characters. -/
def classExpr? (flags : Flags) (c : CharClass) : Option Expr := do
  let set ← c.set? flags
  if flags.unicode || set.isAscii then some (.chars (RangeSet.normalize set)) else none

/-- A character as an expression, with the characters that agree with it where case is
ignored. -/
def literalExpr? (flags : Flags) (l : Literal) : Option Expr :=
  let n := l.char.toNat
  let set : RangeSet := [(n, n)]
  if flags.unicode then
    if flags.ignoreCase then
      match Unicode.orbit? n with
      | some orbit => some (.chars (RangeSet.normalize (orbit.map fun m => (m, m))))
      | none => some (.chars set)
    else some (.chars set)
  else if l.byte && 0x80 ≤ n then none
  else if flags.ignoreCase && n < 0x80 then some (.chars (foldAscii set))
  else some (.chars set)

/-- The set of the dot. -/
def dotSet (flags : Flags) : RangeSet :=
  if flags.dotAll then [(0, RangeSet.maxCodePoint)]
  else if flags.crlf then [(0, 9), (11, 12), (14, RangeSet.maxCodePoint)]
  else [(0, 9), (11, RangeSet.maxCodePoint)]

/-- A place with its flags settled. -/
def anchorOf (flags : Flags) : Place → Anchor
  | .lineStart =>
    if !flags.multiLine then .textStart else if flags.crlf then .crlfStart else .lineStart
  | .lineEnd =>
    if !flags.multiLine then .textEnd else if flags.crlf then .crlfEnd else .lineEnd
  | .textStart => .textStart
  | .textEnd => .textEnd
  | p => .word p (!flags.unicode)

/-- An expression that matches the empty text alone, if any. -/
def Expr.isZeroWidth : Expr → Bool
  | .empty => true
  | .chars _ => false
  | .anchor _ => true
  | .capture body => body.isZeroWidth
  | .seq left right => left.isZeroWidth && right.isZeroWidth
  | .alt left right => left.isZeroWidth && right.isZeroWidth
  | .repetition _ most body => most == some 0 || body.isZeroWidth

/-- A repetition; one more round of the empty text adds nothing to the first. -/
def repetitionOf (least : Nat) (most : Option Nat) (body : Expr) : Expr :=
  if body.isZeroWidth then .repetition (min least 1) (some (min (most.getD 1) 1)) body
  else .repetition least most body

/-- Join expressions as a balanced tree. -/
def joinBalanced (join : Expr → Expr → Expr) : (fuel : Nat) → List Expr → Expr
  | 0, _ => .empty
  | _ + 1, [] => .empty
  | _ + 1, [e] => e
  | fuel + 1, es =>
    let half := es.length / 2
    join (joinBalanced join fuel (es.take half)) (joinBalanced join fuel (es.drop half))

mutual

/-- The expression of a tree, and the flags after it. -/
def Syntax.expr? (flags : Flags) : Syntax → Option (Expr × Flags)
  | .empty => some (.empty, flags)
  | .flags settings => some (.empty, flags.setAll settings)
  | .literal l => (literalExpr? flags l).map fun e => (e, flags)
  | .dot => if flags.unicode then some (.chars (dotSet flags), flags) else none
  | .place p => some (.anchor (anchorOf flags p), flags)
  | .charClass c => (classExpr? flags c).map fun e => (e, flags)
  | .repetition least most body => do
    let (e, flags) ← body.expr? flags
    some (repetitionOf least most e, flags)
  | .group captures settings body => do
    let (e, _) ← body.expr? (flags.setAll settings)
    some (if captures then .capture e else e, flags)
  | .concat parts => do
    let (es, flags) ← Syntax.exprs? flags parts
    some (joinBalanced .seq (es.length + 1) es, flags)
  | .alternation branches => do
    let (es, flags) ← Syntax.exprs? flags branches
    some (joinBalanced .alt (es.length + 1) es, flags)

/-- The expressions of trees that stand in a row. -/
def Syntax.exprs? (flags : Flags) : List Syntax → Option (List Expr × Flags)
  | [] => some ([], flags)
  | part :: parts => do
    let (e, flags) ← part.expr? flags
    let (es, flags) ← Syntax.exprs? flags parts
    some (e :: es, flags)

end

/-! ## Size -/

/-- The bytes that the automaton of a set takes, with 32 for a state and 8 for a transition. An ASCII
set is one state with a transition for each range, and a character a chain of states, one for each
of its bytes in UTF-8. Any other set is estimated: its automaton reads the bytes of UTF-8, and how
many states it has depends on what the encodings of its ranges share, forwards and backwards; here
each range counts as 62 bytes. Whether a pattern close to `maxSize` is refused may differ for that:
a dot takes more than it is counted as, so `.{50000}` passes here although it is too large. -/
def setSize (set : RangeSet) : Nat :=
  match set with
  | [(a, b)] =>
    if a = b then
      32 * (if a < 0x80 then 1 else if a < 0x800 then 2 else if a < 0x10000 then 3 else 4)
    else if b < 0x80 then 72 else 64 + 100
  | set => if set.isAscii then 64 + 8 * set.length else 64 + 62 * set.length

/-- The bytes that the automaton of an expression takes, as far as those of its sets are known. What
is the same for every pattern, the states around the whole, is left out. -/
def Expr.size : Expr → Nat
  | .empty => 32
  | .chars set => setSize set
  | .anchor _ => 32
  | .capture body => body.size + 64
  | .seq left right => left.size + right.size
  | .alt left right => left.size + right.size + 40
  | .repetition least most body =>
    match most with
    | none => (max least 1) * body.size + 40
    | some most => most * body.size + (most - least) * 40 + 32

/-- The greatest size of an automaton. -/
def maxSize : Nat := 10 * 0x100000

/-- Compile a pattern to an expression, unless it is ill-formed or too large. -/
def Expr.compile? (source : String) (ignoreCase : Bool) : Option Expr := do
  let tree ← Syntax.parse? source.toList
  let (e, _) ← tree.expr? { ignoreCase }
  if e.size ≤ maxSize then some e else none

end Catalog.Pattern
