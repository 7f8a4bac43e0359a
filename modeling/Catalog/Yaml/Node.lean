import Catalog.Yaml.Token

/-!
# YAML documents

Nodes as they are written, before the kind of a scalar is decided. Names of anchors are resolved
to numbers; a node may refer to one that it lies in.
-/

namespace Catalog.Yaml

/-- A node of a document. -/
inductive Node where
  /-- A scalar. -/
  | scalar (tag : Option String) (text : String) (style : ScalarStyle)
  /-- A list of nodes. -/
  | sequence (tag : Option String) (items : List Node)
  /-- A list of keys with their values. -/
  | mapping (tag : Option String) (entries : List (Node × Node))
  /-- The anchored node of a number. -/
  | reference (target : Nat)
deriving Inhabited

/-- A document. -/
structure Document where
  /-- The content; an empty stream has none. -/
  root : Option Node
  /-- The anchored nodes by their numbers. -/
  anchored : List (Nat × Node) := []

namespace Node

/-- A node that is left out. -/
def absent : Node := .scalar none "" .plain

mutual

/-- The number of marks that a node consists of: one for a scalar or a reference, two around a
collection. -/
def size : Node → Nat
  | .scalar .. => 1
  | .reference _ => 1
  | .sequence _ items => 2 + sizeOfItems items
  | .mapping _ entries => 2 + sizeOfEntries entries

/-- The marks of the items of a sequence. -/
def sizeOfItems : List Node → Nat
  | [] => 0
  | item :: items => item.size + sizeOfItems items

/-- The marks of the entries of a mapping. -/
def sizeOfEntries : List (Node × Node) → Nat
  | [] => 0
  | (key, value) :: entries => key.size + value.size + sizeOfEntries entries

end

/-! ## Reading nodes from tokens -/

/-- What is left to read, and the anchors so far. -/
structure State where
  /-- The tokens that are left. -/
  tokens : List Token
  /-- What the handles of tags stand for. -/
  handles : List (String × String) := [("!", "!"), ("!!", "tag:yaml.org,2002:")]
  /-- The numbers of names, the latest first. -/
  names : List (String × Nat) := []
  /-- The anchored nodes that are complete. -/
  anchored : List (Nat × Node) := []

/-- A reader of tokens that may fail. -/
abbrev Reader := StateT State Option

namespace Reader

/-- The next token. -/
def peek? : Reader (Option Token) := return (← get).tokens.head?

/-- Go past a token. -/
def advance : Reader Unit := modify fun s => { s with tokens := s.tokens.tail }

/-- The tokens do not form a document. -/
def fail {α : Type} : Reader α := fun _ => none

/-- Whether one of some tokens, or the end, comes next. -/
def meets (tokens : List Token) : Reader Bool := do
  match ← peek? with
  | some t => return t ∈ tokens
  | none => return false

/-- The number of the node that a name stands for. -/
def target (name : String) : Reader Nat := do
  match (← get).names.lookup name with
  | some n => return n
  | none => fail

/-- Give a name to the node that starts here. -/
def reserve (name : String) : Reader Nat := do
  let n := (← get).names.length
  modify fun s => { s with names := (name, n) :: s.names }
  return n

/-- A tag in full. -/
def resolve (handle suffix : String) : Reader String := do
  if handle.isEmpty then return suffix
  match (← get).handles.lookup handle with
  | some lead => return lead ++ suffix
  | none => fail

/-- The anchor and the tag before a node, in either order. -/
def properties : Reader (Option String × Option String) := do
  match ← peek? with
  | some (.anchor name) =>
    advance
    match ← peek? with
    | some (.tag handle suffix) => advance; return (some name, some (← resolve handle suffix))
    | _ => return (some name, none)
  | some (.tag handle suffix) =>
    advance
    let tag ← resolve handle suffix
    match ← peek? with
    | some (.anchor name) => advance; return (some name, some tag)
    | _ => return (none, some tag)
  | _ => return (none, none)

end Reader

open Reader

mutual

/-- A node. Block collections are allowed with `block`, and with `indentless` a sequence whose
dashes stand no further right than the key that it belongs to. -/
def read (block indentless : Bool) : (fuel : Nat) → Reader Node
  | 0 => fail
  | fuel + 1 => do
    match ← peek? with
    | some (.alias name) =>
      advance
      return .reference (← target name)
    | _ =>
      let (anchor, tag) ← properties
      let number ← anchor.mapM reserve
      let node ← match ← peek?, block, indentless with
        | some (.scalar text style), _, _ => do advance; pure (.scalar tag text style)
        | some .flowSequenceStart, _, _ => do
          advance
          pure (.sequence tag (← readFlowItems true fuel))
        | some .flowMappingStart, _, _ => do
          advance
          pure (.mapping tag (← readFlowEntries true fuel))
        | some .blockSequenceStart, true, _ => do
          advance
          pure (.sequence tag (← readItems fuel))
        | some .blockMappingStart, true, _ => do
          advance
          pure (.mapping tag (← readEntries fuel))
        | some .blockEntry, _, true => do pure (.sequence tag (← readIndentless fuel))
        | _, _, _ => if anchor.isSome || tag.isSome then pure (.scalar tag "" .plain) else fail
      match number with
      | some n => modify fun s => { s with anchored := (n, node) :: s.anchored }
      | none => pure ()
      return node

/-- A node, unless one of some tokens shows that it is left out. -/
def readUnless (ends : List Token) (block indentless : Bool) : (fuel : Nat) → Reader Node
  | 0 => fail
  | fuel + 1 => do
    if ← meets ends then return absent else read block indentless fuel

/-- The items of a block sequence. -/
def readItems : (fuel : Nat) → Reader (List Node)
  | 0 => fail
  | fuel + 1 => do
    match ← peek? with
    | some .blockEntry =>
      advance
      let item ← readUnless [.blockEntry, .blockEnd] true false fuel
      return item :: (← readItems fuel)
    | some .blockEnd => advance; return []
    | _ => fail

/-- The items of a block sequence without indentation. -/
def readIndentless : (fuel : Nat) → Reader (List Node)
  | 0 => fail
  | fuel + 1 => do
    match ← peek? with
    | some .blockEntry =>
      advance
      let item ← readUnless [.blockEntry, .key, .value, .blockEnd] true false fuel
      return item :: (← readIndentless fuel)
    | _ => return []

/-- The entries of a block mapping. -/
def readEntries : (fuel : Nat) → Reader (List (Node × Node))
  | 0 => fail
  | fuel + 1 => do
    match ← peek? with
    | some .key =>
      advance
      let key ← readUnless [.key, .value, .blockEnd] true true fuel
      let value ← match ← peek? with
        | some .value => do
          advance
          readUnless [.key, .value, .blockEnd] true true fuel
        | _ => pure absent
      return (key, value) :: (← readEntries fuel)
    | some .blockEnd => advance; return []
    | _ => fail

/-- The items of a flow sequence. An item that starts with a key is a mapping of one entry. -/
def readFlowItems (first : Bool) : (fuel : Nat) → Reader (List Node)
  | 0 => fail
  | fuel + 1 => do
    if ← meets [.flowSequenceEnd] then
      advance
      return []
    if !first then
      if ← meets [.flowEntry] then advance else fail
    match ← peek? with
    | some .flowSequenceEnd => advance; return []
    | some .key =>
      advance
      -- A key that is left out takes the token after it along.
      let key ← if ← meets [.value, .flowEntry, .flowSequenceEnd] then do advance; pure absent
        else read false false fuel
      let value ← match ← peek? with
        | some .value => do
          advance
          readUnless [.flowEntry, .flowSequenceEnd] false false fuel
        | _ => pure absent
      return .mapping none [(key, value)] :: (← readFlowItems false fuel)
    | _ =>
      let item ← read false false fuel
      return item :: (← readFlowItems false fuel)

/-- The entries of a flow mapping. -/
def readFlowEntries (first : Bool) : (fuel : Nat) → Reader (List (Node × Node))
  | 0 => fail
  | fuel + 1 => do
    if ← meets [.flowMappingEnd] then
      advance
      return []
    if !first then
      if ← meets [.flowEntry] then advance else fail
    match ← peek? with
    | some .flowMappingEnd => advance; return []
    | some .key =>
      advance
      let key ← readUnless [.value, .flowEntry, .flowMappingEnd] false false fuel
      let value ← match ← peek? with
        | some .value => do
          advance
          readUnless [.flowEntry, .flowMappingEnd] false false fuel
        | _ => pure absent
      return (key, value) :: (← readFlowEntries false fuel)
    | _ =>
      let key ← read false false fuel
      return (key, absent) :: (← readFlowEntries false fuel)

end

end Node

namespace Document

open Node Node.Reader

/-- The directives before a document: at most one version, 1.1 or 1.2, and handles of tags, each
once. -/
def readDirectives (versioned : Bool) (handles : List (String × String)) :
    List Token → Option (List (String × String) × List Token)
  | .versionDirective major minor :: rest =>
    if versioned || major ≠ 1 || (minor ≠ 1 && minor ≠ 2) then none
    else readDirectives true handles rest
  | .tagDirective handle lead :: rest =>
    if (handles.lookup handle).isSome then none
    else readDirectives versioned (handles ++ [(handle, lead)]) rest
  | tokens => some (handles, tokens)

/-- A document of tokens. -/
def ofTokens? (tokens : List Token) : Option Document := do
  if tokens.isEmpty then return { root := none }
  let fuel := 4 * tokens.length + 4
  let (handles, body) ← readDirectives false [] tokens
  let marked := body.head? == some .documentStart
  if body.length < tokens.length && !marked then none
  let body := if marked then body.tail else body
  let start : Node.State := { tokens := body }
  let start := { start with handles := handles ++ start.handles }
  let reads : Reader Node := do
    match ← peek? with
    | some (.versionDirective ..) => pure absent
    | some (.tagDirective ..) => pure absent
    | some .documentStart => if marked then pure absent else fail
    | some .documentEnd => if marked then pure absent else fail
    | none => if marked then pure absent else fail
    | _ => Node.read true false fuel
  let (root, s) ← reads.run start
  if s.tokens.all (· == .documentEnd) then pure { root := some root, anchored := s.anchored } else none

/-- The document of a text, if it is one document of YAML. -/
def parse? (text : String) : Option Document :=
  (tokens? text).bind ofTokens?

end Document

end Catalog.Yaml
