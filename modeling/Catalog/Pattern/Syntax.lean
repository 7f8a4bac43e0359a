/-!
# Syntax of regular expressions

The tree of a regular expression as written. Flags and properties are kept by name; what they
mean is settled when the tree is turned into an expression over characters.
-/

namespace Catalog.Pattern

/-- A switch that changes how the rest of a group is read. -/
inductive Flag where
  /-- Ignore the case of letters (`i`). -/
  | ignoreCase
  /-- Let `^` and `$` match at lines (`m`). -/
  | multiLine
  /-- Let the dot match line ends (`s`). -/
  | dotAll
  /-- Swap greedy and lazy repetition (`U`). -/
  | swapGreed
  /-- Classes and folding of all of Unicode (`u`). -/
  | unicode
  /-- Lines end with a carriage return too (`R`). -/
  | crlf
  /-- Skip blanks and comments in the pattern (`x`). -/
  | verbose
deriving DecidableEq, Repr

/-- Flags with the state that each is set to. -/
abbrev FlagSettings := List (Flag × Bool)

/-- A place between characters. -/
inductive Place where
  /-- `^` -/
  | lineStart
  /-- `$` -/
  | lineEnd
  /-- Before the first character. -/
  | textStart
  /-- After the last character. -/
  | textEnd
  /-- Between a word character and another one. -/
  | wordBoundary
  /-- Not at a word boundary. -/
  | notWordBoundary
  /-- At the start of a word. -/
  | wordStart
  /-- At the end of a word. -/
  | wordEnd
  /-- Not after a word character. -/
  | wordStartHalf
  /-- Not before a word character. -/
  | wordEndHalf
deriving DecidableEq, Repr

/-- A single character as written; `byte` marks an escape of two hexadecimal digits. -/
structure Literal where
  /-- The character. -/
  char : Char
  /-- Written as a byte. -/
  byte : Bool := false
deriving DecidableEq, Repr

/-- The classes written with a single letter. -/
inductive ShortClass where
  /-- Digits. -/
  | digit
  /-- Blanks. -/
  | space
  /-- Word characters. -/
  | word
deriving DecidableEq, Repr

/-- A property of characters, by name or by name and value. -/
inductive PropertyQuery where
  /-- A single name. -/
  | name (name : List Char)
  /-- A property with its value. -/
  | value (property value : List Char)
deriving DecidableEq, Repr

/-- Operators between sets of characters. -/
inductive SetOperator where
  /-- `&&` -/
  | intersection
  /-- `--` -/
  | difference
  /-- `~~` -/
  | symmetricDifference
deriving DecidableEq, Repr

/-- A set of characters. -/
inductive CharClass where
  /-- No character. -/
  | empty
  /-- One character. -/
  | literal (l : Literal)
  /-- The characters from one to another. -/
  | range (low high : Literal)
  /-- A named ASCII class. -/
  | ascii (ranges : List (Nat × Nat)) (negated : Bool)
  /-- A class of a single letter. -/
  | short (c : ShortClass) (negated : Bool)
  /-- A property. -/
  | property (query : PropertyQuery) (negated : Bool)
  /-- Brackets around a set. -/
  | bracketed (negated : Bool) (set : CharClass)
  /-- The union of at least two sets. -/
  | union (sets : List CharClass)
  /-- Two sets joined by an operator. -/
  | binary (op : SetOperator) (left right : CharClass)
deriving Inhabited

/-- A regular expression as written. -/
inductive Syntax where
  /-- Nothing. -/
  | empty
  /-- Flags for the rest of the group. -/
  | flags (settings : FlagSettings)
  /-- A character. -/
  | literal (l : Literal)
  /-- Any character. -/
  | dot
  /-- A place. -/
  | place (p : Place)
  /-- A set of characters. -/
  | charClass (c : CharClass)
  /-- A repetition with bounds. -/
  | repetition (least : Nat) (most : Option Nat) (body : Syntax)
  /-- A group, possibly with flags of its own. -/
  | group (captures : Bool) (settings : FlagSettings) (body : Syntax)
  /-- At least two parts, one after the other. -/
  | concat (parts : List Syntax)
  /-- At least two alternatives. -/
  | alternation (branches : List Syntax)
deriving Inhabited

/-- Join parts, in the reverse of their order. -/
def Syntax.concatOf : List Syntax → Syntax
  | [] => .empty
  | [part] => part
  | parts => .concat parts.reverse

/-- Join branches, in the reverse of their order. -/
def Syntax.alternationOf : List Syntax → Syntax
  | [] => .empty
  | [branch] => branch
  | branches => .alternation branches.reverse

/-- Join sets, in the reverse of their order. -/
def CharClass.unionOf : List CharClass → CharClass
  | [] => .empty
  | [set] => set
  | sets => .union sets.reverse

mutual

/-- How deeply brackets, unions and operators nest in a class. -/
def CharClass.depth : CharClass → Nat
  | .bracketed _ set => set.depth + 1
  | .union sets => CharClass.depthOfList sets + 1
  | .binary _ left right => max left.depth right.depth + 1
  | _ => 0

/-- The greatest depth of a list of classes. -/
def CharClass.depthOfList : List CharClass → Nat
  | [] => 0
  | set :: sets => max set.depth (CharClass.depthOfList sets)

end

mutual

/-- How deeply an expression nests. -/
def Syntax.depth : Syntax → Nat
  | .charClass c => c.depth
  | .repetition _ _ body => body.depth + 1
  | .group _ _ body => body.depth + 1
  | .concat parts => Syntax.depthOfList parts + 1
  | .alternation branches => Syntax.depthOfList branches + 1
  | _ => 0

/-- The greatest depth of a list of expressions. -/
def Syntax.depthOfList : List Syntax → Nat
  | [] => 0
  | part :: parts => max part.depth (Syntax.depthOfList parts)

end

end Catalog.Pattern
