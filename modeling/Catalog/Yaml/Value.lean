import Catalog.Json.Printer
import Catalog.Yaml.Node
import Catalog.Binary64.Decimal
import Catalog.Binary64.Shortest

/-!
# Values of YAML documents

The kind of a scalar is read off its text: null, truth values, integers in four bases, doubles, and
texts for anything else. References are replaced by what they stand for.
-/

namespace Catalog.Yaml

/-- A value. -/
inductive Value where
  /-- The value null. -/
  | null
  /-- A truth value. -/
  | bool (b : Bool)
  /-- An integer within 64 bits, signed or not. -/
  | int (n : Int)
  /-- A double. -/
  | double (x : Binary64)
  /-- A text. -/
  | string (s : String)
  /-- A list of values. -/
  | sequence (items : List Value)
  /-- Keys with their values, in order. -/
  | mapping (entries : List (Value × Value))
  /-- A value under a tag of its own. -/
  | tagged (tag : String) (value : Value)
deriving Inhabited

/-! ## Scalars -/

/-- What the text of a plain scalar may stand for. -/
inductive PlainKind where
  /-- The value null. -/
  | null
  /-- A truth value. -/
  | bool (b : Bool)
  /-- An integer. -/
  | int (n : Int)
  /-- A double. -/
  | double (x : Binary64)
  /-- A text. -/
  | text

namespace PlainKind

/-- The words for null. -/
def nullWords : List String := ["null", "Null", "NULL", "~"]

/-- The truth value of a word. -/
def boolOf? (s : String) : Option Bool :=
  if s ∈ ["true", "True", "TRUE"] then some true
  else if s ∈ ["false", "False", "FALSE"] then some false
  else none

/-- Digits of a base as a number; there must be one. -/
def digits? (base : Nat) (cs : List Char) : Option Nat :=
  if cs.isEmpty then none
  else cs.foldlM (fun acc c =>
    ((Text.hexValue? c).filter (· < base)).map fun d => acc * base + d) 0

/-- An unsigned integer in one of the bases that a mark announces. -/
def based? (cs : List Char) : Option Nat :=
  match cs with
  | '0' :: 'x' :: ds => digits? 16 ds
  | '0' :: 'o' :: ds => digits? 8 ds
  | '0' :: 'b' :: ds => digits? 2 ds
  | _ => none

/-- Several digits of which the first is a zero: no number, although all are digits. -/
def hasLeadingZero (cs : List Char) : Bool :=
  let body := match cs with
    | '-' :: ds => ds
    | '+' :: ds => ds
    | ds => ds
  match body with
  | '0' :: d :: ds => (d :: ds).all Text.isAsciiDigit
  | _ => false

/-- An integer of any size. -/
def intOf? (cs : List Char) : Option Int :=
  let (negative, body) := match cs with
    | '-' :: ds => (true, ds)
    | '+' :: ds => (false, ds)
    | ds => (false, ds)
  let n? := (based? body).or (if hasLeadingZero cs then none else digits? 10 body)
  n?.map fun n => if negative then -(n : Int) else n

/-- A double in decimal, or one of the marked words for infinity and no number. -/
def doubleOf? (s : String) : Option Binary64 :=
  let cs := s.toList
  let unsigned := match cs with
    | '+' :: ds => ds
    | ds => ds
  if cs.take 2 = ['+', '+'] ∨ cs.take 2 = ['+', '-'] then none
  else if String.ofList unsigned ∈ [".inf", ".Inf", ".INF"] then
    some (Binary64.ofMagnitude false Binary64.infinityMagnitude)
  else if s ∈ ["-.inf", "-.Inf", "-.INF"] then
    some (Binary64.ofMagnitude true Binary64.infinityMagnitude)
  else if s ∈ [".nan", ".NaN", ".NAN"] then
    some (Binary64.ofMagnitude false (Binary64.infinityMagnitude + 0x8000000000000))
  else Binary64.readFinite? unsigned

/-- What a plain scalar stands for. -/
def ofText (s : String) : PlainKind :=
  if s.isEmpty ∨ s ∈ nullWords then .null
  else match boolOf? s, intOf? s.toList with
    | some b, _ => .bool b
    -- Integers beyond 128 bits are read as doubles, if they are in decimal.
    | none, some n =>
      if -0x80000000000000000000000000000000 ≤ n ∧ n < 0x100000000000000000000000000000000 then .int n
      else match doubleOf? s with
        | some x => .double x
        | none => .text
    | none, none =>
      if hasLeadingZero s.toList then .text
      else match doubleOf? s with
        | some x => .double x
        | none => .text

end PlainKind

namespace Value

/-- An integer, if it is within 64 bits. -/
def ofInt? (n : Int) : Option Value :=
  if -0x8000000000000000 ≤ n ∧ n < 0x10000000000000000 then some (.int n) else none

/-- The value of a plain scalar. -/
def ofPlain? (s : String) : Option Value :=
  match PlainKind.ofText s with
  | .null => some .null
  | .bool b => some (.bool b)
  | .int n => ofInt? n
  | .double x => some (.double x)
  | .text => some (.string s)

/-- The value of a scalar under a tag of the format, or of one without a tag. -/
def ofScalar? (tag : Option String) (s : String) (style : ScalarStyle) : Option Value :=
  match tag with
  | some "tag:yaml.org,2002:bool" => (PlainKind.boolOf? s).map .bool
  | some "tag:yaml.org,2002:int" =>
    match PlainKind.intOf? s.toList with
    | some n => ofInt? n
    | none => none
  | some "tag:yaml.org,2002:float" => (PlainKind.doubleOf? s).map .double
  | some "tag:yaml.org,2002:null" => if s ∈ PlainKind.nullWords then some .null else none
  | some _ => some (.string s)
  | none => if style = .plain then ofPlain? s else some (.string s)

/-- The name of a tag that is no tag of the format. -/
def customTag? (tag : Option String) : Option String :=
  tag.bind fun t =>
    match t.toList with
    | ['!'] => some "!"
    | '!' :: name => some (String.ofList name)
    | _ => none

/-! ## Documents -/

mutual

/-- Whether two values are the same key. All values that are no numbers are one. -/
def sameKey : Value → Value → Bool
  | .null, .null => true
  | .bool a, .bool b => a == b
  | .int a, .int b => a == b
  | .double a, .double b => (a.isNaN && b.isNaN) || a.sameNumber b
  | .string a, .string b => a == b
  | .sequence a, .sequence b => sameItems a b
  | .mapping a, .mapping b => sameEntries a b
  | .tagged s a, .tagged t b => s == t && sameKey a b
  | _, _ => false

/-- Whether two lists are the same, item by item. -/
def sameItems : List Value → List Value → Bool
  | [], [] => true
  | a :: as, b :: bs => sameKey a b && sameItems as bs
  | _, _ => false

/-- Whether two lists of entries are the same. -/
def sameEntries : List (Value × Value) → List (Value × Value) → Bool
  | [], [] => true
  | (k, v) :: as, (l, w) :: bs => sameKey k l && sameKey v w && sameEntries as bs
  | _, _ => false

end

/-- How the keys of mappings are taken. -/
inductive KeyMode where
  /-- As values, none of which may stand twice. Tags of its own are kept. -/
  | values
  /-- As the texts of scalars, of which the last of several equal ones counts. Tags of its own are
  refused. -/
  | texts
deriving DecidableEq

/-- How deep collections may lie in each other. -/
def maxDepth : Nat := 128

/-- How many references may be followed for each mark of a document. -/
def maxJumps : Nat := 100

/-- Follow a reference, if it is one; the state counts the references that may still be followed. -/
def follow (anchored : List (Nat × Node)) : Node → StateT Nat Option Node
  | .reference n => do
    let left ← get
    if left = 0 then failure
    set (left - 1)
    match anchored.lookup n with
    | some node => pure node
    | none => failure
  | node => pure node

/-- Add an entry to a mapping, if its key is not there. -/
def addEntry? (entries : List (Value × Value)) (key value : Value) : Option (List (Value × Value)) :=
  if entries.any fun e => sameKey e.1 key then none else some (entries ++ [(key, value)])

/-- The value of a node, with collections at most `depth` deep. -/
def ofNode (mode : KeyMode) (anchored : List (Nat × Node)) : (depth : Nat) → Node → StateT Nat Option Value
  | depth, node => do
    let node ← follow anchored node
    let tag := match node with
      | .scalar tag _ _ => tag
      | .sequence tag _ => tag
      | .mapping tag _ => tag
      | .reference _ => none
    let custom := customTag? tag
    if custom.isSome && mode = .texts then failure
    let value ← match node, depth with
      | .scalar tag s style, _ =>
        match ofScalar? (if custom.isSome then none else tag) s style with
        | some v => pure v
        | none => failure
      | .sequence _ items, depth + 1 => do
        let values ← items.mapM (ofNode mode anchored depth)
        pure (.sequence values)
      | .mapping _ entries, depth + 1 => do
        let entries ← entries.foldlM (fun acc (k, v) => do
          match mode with
          | .values =>
            let key ← ofNode mode anchored depth k
            let value ← ofNode mode anchored depth v
            match addEntry? acc key value with
            | some acc => pure acc
            | none => failure
          | .texts =>
            match ← follow anchored k with
            | .scalar _ s _ =>
              let value ← ofNode mode anchored depth v
              pure (acc ++ [(.string s, value)])
            | _ => failure) []
        pure (.mapping entries)
      | _, _ => failure
    match custom with
    | some tag => pure (.tagged tag value)
    | none => pure value

end Value

namespace Document

/-- The value of a document. An empty stream has the value null. -/
def value? (d : Document) (mode : Value.KeyMode) : Option Value :=
  match d.root with
  | none => some .null
  | some root =>
    ((Value.ofNode mode d.anchored Value.maxDepth root).run (Value.maxJumps * root.size)).map (·.1)

end Document

/-! ## From YAML to JSON -/

/-- Why a value has no JSON form. -/
inductive KeyError where
  /-- A key is null or a collection. -/
  | notText
  /-- A key is infinite, or no number. -/
  | notFinite
deriving DecidableEq

/-- The wording of each cause. -/
def KeyError.message : KeyError → String
  | notText => "key must be a string"
  | notFinite => "float key must be finite (got NaN or +/-inf)"

namespace Value

/-- Numbers in YAML: positional from `10 ^ -5` up to `10 ^ 16`, positive exponents without sign. -/
def numberLayout : Binary64.Layout := ⟨-5, 16, "e", "e-"⟩

/-- The text of a scalar as a key of an object. -/
def keyText : Value → Except KeyError String
  | .string s => .ok s
  | .bool b => .ok (if b then "true" else "false")
  | .int n => .ok (String.ofList (intText n))
  | .double x => if x.isFinite then .ok (String.ofList (numberLayout.format x)) else .error .notFinite
  | _ => .error .notText

mutual

/-- The JSON form: objects with their keys in order, of which the last of several equal ones
counts. -/
def toJson : Value → Except KeyError Json
  | .null => .ok .null
  | .bool b => .ok (.bool b)
  | .int n => .ok (Json.int n)
  | .double x => .ok (Json.double x)
  | .string s => .ok (.string s)
  | .sequence items => (itemsToJson items).map .array
  | .mapping entries => (entriesToJson [] entries).map .object
  | .tagged tag value => do pure (.object [("!" ++ tag, ← toJson value)])

/-- The JSON form of items. -/
def itemsToJson : List Value → Except KeyError (List Json)
  | [] => .ok []
  | item :: items => do pure ((← toJson item) :: (← itemsToJson items))

/-- Put entries one after the other among the fields of an object. -/
def entriesToJson (acc : Json.Fields) : List (Value × Value) → Except KeyError Json.Fields
  | [] => .ok acc
  | (key, value) :: entries => do
    let k ← keyText key
    let v ← toJson value
    entriesToJson (SortedMap.insertEntry k v acc) entries

end

end Value

end Catalog.Yaml
