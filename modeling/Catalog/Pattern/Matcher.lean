import Catalog.Pattern.Expr
import Catalog.Query.Predicate

/-!
# Matching by marks

An expression is matched by moving marks through it. A mark on a set says that the last character
read was taken there. Each character moves all marks at once, so the time is linear in the text,
and no match is missed or tried twice.
-/

namespace Catalog.Pattern

/-- The characters around a place in a text. -/
structure Surroundings where
  /-- The character before, if any. -/
  before : Option Char
  /-- The character after, if any. -/
  after : Option Char

/-- Whether a character belongs to words. -/
def isWordChar (ascii : Bool) : Option Char → Bool
  | none => false
  | some c =>
    if c.toNat < 0x80 then Text.isAsciiLetter c || Text.isAsciiDigit c || c == '_'
    else !ascii && Unicode.wordCharacters.contains c.toNat

/-- Whether a place is as an anchor wants it. -/
def Anchor.holds (a : Anchor) (s : Surroundings) : Bool :=
  match a with
  | .textStart => s.before.isNone
  | .textEnd => s.after.isNone
  | .lineStart => s.before.isNone || s.before == some '\n'
  | .lineEnd => s.after.isNone || s.after == some '\n'
  | .crlfStart =>
    s.before.isNone || s.before == some '\n' || (s.before == some '\r' && s.after != some '\n')
  | .crlfEnd =>
    s.after.isNone || s.after == some '\r' || (s.after == some '\n' && s.before != some '\r')
  | .word place ascii =>
    let before := isWordChar ascii s.before
    let after := isWordChar ascii s.after
    match place with
    | .wordBoundary => before != after
    | .notWordBoundary => before == after
    | .wordStart => !before && after
    | .wordEnd => before && !after
    | .wordStartHalf => !before
    | .wordEndHalf => !after
    | _ => false

/-- When an expression matches the empty text. -/
inductive Nullability where
  /-- At every place. -/
  | always
  /-- At no place. -/
  | never
  /-- At some places. -/
  | sometimes
deriving DecidableEq

/-- Both parts match the empty text. -/
def Nullability.and : Nullability → Nullability → Nullability
  | .never, _ => .never
  | _, .never => .never
  | .always, n => n
  | n, .always => n
  | _, _ => .sometimes

/-- One of the parts matches the empty text. -/
def Nullability.or : Nullability → Nullability → Nullability
  | .always, _ => .always
  | _, .always => .always
  | .never, n => n
  | n, .never => n
  | _, _ => .sometimes

/-- An expression with marks. Inner nodes know whether they hold a mark and when they match the
empty text. -/
inductive Marked where
  /-- The empty text. -/
  | empty
  /-- One character of a set. -/
  | chars (set : RangeSet) (mark : Bool)
  /-- The empty text at a place. -/
  | anchor (a : Anchor)
  /-- One after the other. -/
  | seq (active : Bool) (null : Nullability) (left right : Marked)
  /-- Either. -/
  | alt (active : Bool) (null : Nullability) (left right : Marked)
  /-- Any number of times. -/
  | star (active : Bool) (body : Marked)
deriving Inhabited

namespace Marked

/-- Whether there is a mark inside. -/
def active : Marked → Bool
  | empty => false
  | chars _ mark => mark
  | anchor _ => false
  | seq active _ _ _ => active
  | alt active _ _ _ => active
  | star active _ => active

/-- When the empty text matches. -/
def null : Marked → Nullability
  | empty => .always
  | chars _ _ => .never
  | anchor _ => .sometimes
  | seq _ null _ _ => null
  | alt _ null _ _ => null
  | star _ _ => .always

/-- One after the other, with what is known of the parts. -/
def mkSeq (left right : Marked) : Marked :=
  .seq (left.active || right.active) (left.null.and right.null) left right

/-- Either, with what is known of the parts. -/
def mkAlt (left right : Marked) : Marked :=
  .alt (left.active || right.active) (left.null.or right.null) left right

/-- Any number of times. -/
def mkStar (body : Marked) : Marked :=
  .star body.active body

/-- Whether the empty text matches at a place. -/
def matchesEmpty (s : Surroundings) (m : Marked) : Bool :=
  match m.null with
  | .always => true
  | .never => false
  | .sometimes =>
    match m with
    | anchor a => a.holds s
    | seq _ _ left right => matchesEmpty s left && matchesEmpty s right
    | alt _ _ left right => matchesEmpty s left || matchesEmpty s right
    | _ => true

/-- Whether a match ends at the mark of the last character, seen from the place after it. -/
def ended (s : Surroundings) (m : Marked) : Bool :=
  if !m.active then false
  else match m with
    | chars _ mark => mark
    | seq _ _ left right => ended s right || (matchesEmpty s right && ended s left)
    | alt _ _ left right => ended s left || ended s right
    | star _ body => ended s body
    | _ => false

/-- Move the marks over a character; `enter` puts a new mark in front of the expression. -/
def step (s : Surroundings) (c : Char) (enter : Bool) (m : Marked) : Marked :=
  if !enter && !m.active then m
  else match m with
    | chars set _ => .chars set (enter && set.contains c.toNat)
    | seq _ _ left right =>
      mkSeq (step s c enter left)
        (step s c ((enter && matchesEmpty s left) || ended s left) right)
    | alt _ _ left right => mkAlt (step s c enter left) (step s c enter right)
    | star _ body => mkStar (step s c (enter || ended s body) body)
    | m => m

/-- Whether a match ends in the rest of a text, or starts there; `before` is the character in
front of it. -/
def search (before : Option Char) (m : Marked) : List Char → Bool
  | [] =>
    let s : Surroundings := ⟨before, none⟩
    matchesEmpty s m || ended s m
  | c :: cs =>
    let s : Surroundings := ⟨before, some c⟩
    matchesEmpty s m || ended s m || search (some c) (step s c true m) cs

/-- The same expression `n` times in a row, as a balanced tree. -/
def replicate (m : Marked) : (fuel : Nat) → (n : Nat) → Marked
  | 0, _ => .empty
  | _ + 1, 0 => .empty
  | _ + 1, 1 => m
  | fuel + 1, n => mkSeq (replicate m fuel (n / 2)) (replicate m fuel (n - n / 2))

/-- The expression without marks. -/
def ofExpr : Expr → Marked
  | .empty => .empty
  | .chars set => .chars set false
  | .anchor a => .anchor a
  | .capture body => ofExpr body
  | .seq left right => mkSeq (ofExpr left) (ofExpr right)
  | .alt left right => mkAlt (ofExpr left) (ofExpr right)
  | .repetition least most body =>
    let m := ofExpr body
    let required := replicate m (least + 1) least
    match most with
    | none => mkSeq required (mkStar m)
    | some most => mkSeq required (replicate (mkAlt .empty m) (most + 1) (most - least))

end Marked

end Pattern

open Pattern

/-- A pattern ready to be matched. -/
structure Matcher where
  /-- The expression without marks. -/
  start : Marked

/-- Compile a pattern; there is none for an ill-formed or too large expression. -/
def TextPattern.compile? (p : TextPattern) : Option Matcher :=
  (Expr.compile? p.source p.ignoreCase).map fun e => ⟨Marked.ofExpr e⟩

/-- Whether a text holds a match anywhere. -/
def Matcher.isMatch (m : Matcher) (text : String) : Bool :=
  m.start.search none text.toList

end Catalog
