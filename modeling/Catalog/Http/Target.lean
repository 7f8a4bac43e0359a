import Catalog.Text.Ascii
import Catalog.Text.Utf8

/-!
# Request targets

What a request asks for: a path with a query, an absolute address, or a host alone. Letters outside
ASCII may stand in paths and queries as they are; a fragment is dropped unseen.
-/

namespace Catalog

/-- Why a text is no request target. -/
inductive TargetError where
  /-- A character that may not stand at its place. -/
  | invalidCharacter
  /-- A host with misplaced colons, brackets or percent signs. -/
  | invalidAuthority
  /-- Neither a path, nor an absolute address, nor a host. -/
  | invalidFormat
  /-- There is no text, or nothing after the scheme. -/
  | empty
  /-- The text is longer than a target may be. -/
  | tooLong
  /-- The scheme is longer than a scheme may be. -/
  | schemeTooLong
deriving DecidableEq, Repr

/-- The wording of each cause. -/
def TargetError.message : TargetError → String
  | invalidCharacter => "invalid uri character"
  | invalidAuthority => "invalid authority"
  | invalidFormat => "invalid format"
  | empty => "empty string"
  | tooLong => "uri too long"
  | schemeTooLong => "scheme too long"

/-- What a request asks for. -/
inductive RequestTarget where
  /-- A path with an optional query; `absolute` says that a scheme and a host stood before it. -/
  | path (absolute : Bool) (text : List Char) (query : Option (List Char))
  /-- A host without scheme and path. -/
  | host
deriving DecidableEq, Repr

namespace RequestTarget

/-- The greatest number of bytes in a target. -/
def maxLength : Nat := 65534

/-- The greatest number of characters in a scheme. -/
def maxSchemeLength : Nat := 64

/-! ## Characters -/

/-- A character that may stand in a path. -/
def isPathChar (c : Char) : Bool :=
  0x21 ≤ c.toNat && c ∉ ['#', '<', '>', '?', '\x60']

/-- A character that may stand in a query. -/
def isQueryChar (c : Char) : Bool :=
  0x21 ≤ c.toNat && c ∉ ['"', '#', '<', '>']

/-- A character that may stand in a host, with the signs that end it. -/
def isHostChar (c : Char) : Bool :=
  Text.isAsciiLetter c || Text.isAsciiDigit c || "!#$&'()*+,-./:;=?@[]_~".toList.contains c

/-- A character of a scheme. -/
def isSchemeChar (c : Char) : Bool :=
  Text.isAsciiLetter c || Text.isAsciiDigit c || ['+', '-', '.', '~'].contains c

/-! ## Parts -/

/-- Read a path and a query, up to a fragment. -/
def readPath (absolute : Bool) (cs : List Char) : Except TargetError RequestTarget :=
  let path := cs.takeWhile isPathChar
  match cs.dropWhile isPathChar with
  | [] => .ok (.path absolute path none)
  | '#' :: _ => .ok (.path absolute path none)
  | '?' :: rest =>
    let query := rest.takeWhile isQueryChar
    match rest.dropWhile isQueryChar with
    | [] => .ok (.path absolute path (some query))
    | '#' :: _ => .ok (.path absolute path (some query))
    | _ => .error .invalidCharacter
  | _ => .error .invalidCharacter

/-- What has been seen of a host. -/
structure HostScan where
  /-- Colons since the last at sign or bracket. -/
  colons : Nat := 0
  /-- An opening bracket was seen. -/
  opened : Bool := false
  /-- A closing bracket was seen. -/
  closed : Bool := false
  /-- A percent sign was seen since the last at sign or bracket. -/
  percent : Bool := false
  /-- The last character was an at sign. -/
  atEnd : Bool := false

/-- Take in a character of a host. -/
def HostScan.step (s : HostScan) (c : Char) : Except TargetError HostScan :=
  let s := { s with atEnd := c == '@' }
  if c = '%' then .ok { s with percent := true }
  else if !isHostChar c then .error .invalidCharacter
  else if c = ':' then
    if 8 ≤ s.colons then .error .invalidAuthority else .ok { s with colons := s.colons + 1 }
  else if c = '[' then
    if s.percent || s.opened then .error .invalidAuthority else .ok { s with opened := true }
  else if c = ']' then
    if !s.opened || s.closed then .error .invalidAuthority
    else .ok { s with closed := true, colons := 0, percent := false }
  else if c = '@' then .ok { s with colons := 0, percent := false }
  else .ok s

/-- Whether a host may end here: brackets are closed, at most one colon stands before a port, and
neither a percent sign nor an at sign is left. -/
def HostScan.isComplete (s : HostScan) : Bool :=
  s.opened == s.closed && s.colons ≤ 1 && !s.atEnd && !s.percent

/-- The rest of a text after the host at its front. -/
def dropHost (cs : List Char) : Except TargetError (List Char) := do
  let ends (c : Char) : Bool := c == '/' || c == '?' || c == '#'
  let s ← (cs.takeWhile fun c => !ends c).foldlM HostScan.step {}
  if s.isComplete then pure (cs.dropWhile fun c => !ends c) else throw .invalidAuthority

/-- The text after a scheme and two slashes, if there is a scheme. -/
def dropScheme (cs : List Char) : Except TargetError (Option (List Char)) :=
  let scheme := cs.takeWhile isSchemeChar
  match cs.dropWhile isSchemeChar with
  | ':' :: '/' :: '/' :: rest =>
    if cs.length ≤ 3 then .ok none
    else if maxSchemeLength < scheme.length then .error .schemeTooLong
    else .ok (some rest)
  | _ => .ok none

/-- Read a request target. -/
def parse (text : String) : Except TargetError RequestTarget :=
  let cs := text.toList
  if maxLength < text.utf8ByteSize then .error .tooLong
  else
    match cs with
    | [] => .error .empty
    | ['*'] => .ok (.path false ['*'] none)
    | '/' :: _ => readPath false cs
    | _ => do
      match ← dropScheme cs with
      | some [] => throw .empty
      | some afterScheme =>
        let rest ← dropHost afterScheme
        if rest.length = afterScheme.length then throw .invalidFormat
        readPath true rest
      | none =>
        let rest ← dropHost cs
        if rest.isEmpty then pure .host
        else if text.utf8ByteSize = 1 then throw .invalidCharacter
        else throw .invalidFormat

/-! ## Views -/

/-- The path; a missing one after a host is the root. -/
def pathText : RequestTarget → List Char
  | .path absolute text _ => if text.isEmpty && absolute then ['/'] else text
  | .host => []

/-- The query, without its question mark. -/
def query? : RequestTarget → Option (List Char)
  | .path _ _ query => query
  | .host => none

/-- Path and query as given; the root if there is neither. -/
def pathAndQuery : RequestTarget → List Char
  | .path _ text none => if text.isEmpty then ['/'] else text
  | .path _ text (some query) => text ++ '?' :: query
  | .host => ['/']

end RequestTarget

end Catalog
