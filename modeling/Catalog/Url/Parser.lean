import Catalog.Text.Blank
import Catalog.Url.Host

/-!
# Addresses

Absolute addresses and references to paths, read as browsers do: tabs and line ends are dropped,
backslashes count as slashes in known schemes, dot segments are resolved and what paths reserve is
percent-encoded. Query and fragment are left out.
-/

namespace Catalog

/-- How the scheme of an address treats what follows it. -/
inductive SchemeKind where
  /-- A known scheme with a host. -/
  | special
  /-- Files. -/
  | file
  /-- Any other scheme. -/
  | unknown
deriving DecidableEq, Repr

namespace SchemeKind

/-- The kind of a scheme. -/
def ofName (scheme : String) : SchemeKind :=
  if scheme = "file" then file
  else if scheme ∈ ["http", "https", "ws", "wss", "ftp"] then special
  else unknown

/-- Whether the scheme is a known one. -/
def isKnown : SchemeKind → Bool
  | unknown => false
  | _ => true

end SchemeKind

/-- The port that a scheme implies. -/
def defaultPort? (scheme : String) : Option Nat :=
  match scheme with
  | "http" => some 80
  | "ws" => some 80
  | "https" => some 443
  | "wss" => some 443
  | "ftp" => some 21
  | _ => none

/-- An address without query and fragment: everything in front of the path, and the path. -/
structure Url where
  /-- Kind of its scheme. -/
  kind : SchemeKind
  /-- The text before the path. -/
  front : List Char
  /-- The path, percent-encoded. -/
  path : List Char
  /-- The path is a text that has no segments. -/
  opaquePath : Bool

namespace Url

/-- Why a text is no absolute address. -/
inductive ParseError where
  /-- The text has no scheme. -/
  | relative
  /-- The host is missing, ill-formed, or has an ill-formed port. -/
  | invalidHost
deriving DecidableEq, Repr

/-- A slash, or a backslash in a known scheme. -/
def isSlash (kind : SchemeKind) (c : Char) : Bool :=
  c == '/' || (kind.isKnown && c == '\\')

/-- The part before the query and the fragment. -/
def beforeQuery (cs : List Char) : List Char :=
  cs.takeWhile fun c => c != '?' && c != '#'

/-! ## Paths -/

/-- A segment that stands for its own directory. -/
def isSingleDot (segment : List Char) : Bool :=
  Text.lowerAscii segment ∈ [['.'], ['%', '2', 'e']]

/-- A segment that stands for the directory above. -/
def isDoubleDot (segment : List Char) : Bool :=
  Text.lowerAscii segment ∈
    [['.', '.'], ['.', '%', '2', 'e'], ['%', '2', 'e', '.'], ['%', '2', 'e', '%', '2', 'e']]

/-- A drive letter. -/
def isDriveLetter (segment : List Char) : Bool :=
  match segment with
  | [c, d] => Text.isAsciiLetter c && (d == ':' || d == '|')
  | _ => false

/-- Drop the last segment of a path given in reverse. A drive letter stays, wherever it stands and
whatever the scheme; the standard for addresses keeps it only as the whole path of a file. -/
def shorten : List (List Char) → List (List Char)
  | [] => []
  | segment :: segments => if isDriveLetter segment then segment :: segments else segments

/-- Add the segments of a path one by one to those before, given in reverse; dot segments are
resolved. -/
def resolveSegments (kind : SchemeKind) (before : List (List Char)) :
    List (List Char) → List (List Char)
  | [] => before
  | segment :: rest =>
    let isLast := rest.isEmpty
    if isDoubleDot segment then
      let shorter := shorten before
      resolveSegments kind (if isLast then [] :: shorter else shorter) rest
    else if isSingleDot segment then
      resolveSegments kind (if isLast then [] :: before else before) rest
    else
      let segment := match segment with
        | [c, '|'] => if kind == .file && before.isEmpty && Text.isAsciiLetter c then [c, ':'] else [c, '|']
        | s => s
      resolveSegments kind (Percent.encode Percent.inPath segment :: before) rest

/-- The pieces of a text between slashes. -/
def splitSlashes (kind : SchemeKind) (cs : List Char) : List (List Char) :=
  Text.splitOn '/' (if kind.isKnown then cs.map fun c => if c = '\\' then '/' else c else cs)

/-- The path of segments given in reverse. -/
def joinSegments (segments : List (List Char)) : List Char :=
  segments.reverse.flatMap fun segment => '/' :: segment

/-- The path of a text that follows a host. A known scheme always has one; the path of a file has
no empty segments in front. -/
def pathOf (kind : SchemeKind) (cs : List Char) : List Char :=
  let segments := match cs with
    | [] => if kind.isKnown then [[]] else []
    | c :: rest => splitSlashes kind (if isSlash kind c then rest else c :: rest)
  let segments := (resolveSegments kind [] segments).reverse
  let segments := if kind == .file then
      match segments.dropWhile List.isEmpty with
      | [] => if segments.isEmpty then [] else [[]]
      | segments => segments
    else segments
  joinSegments segments.reverse

/-! ## Hosts -/

/-- The user information, encoded, with its closing sign, and what follows it. -/
def readUserInfo? (kind : SchemeKind) (cs : List Char) : Option (List Char × List Char) :=
  let authority := cs.takeWhile fun c => !(isSlash kind c || c == '?' || c == '#')
  let rest := cs.drop authority.length
  match Text.splitFirst? '@' authority.reverse with
  | none => some ([], cs)
  | some (hostReversed, infoReversed) =>
    let after := hostReversed.reverse ++ rest
    let info := infoReversed.reverse
    if info.isEmpty then
      if hostReversed.isEmpty && !rest.isEmpty then none else some ([], after)
    else
      let encode := Percent.encode Percent.inUserInfo
      let text := match Text.splitFirst? ':' info with
        | some (user, password) =>
          encode user ++ if password.isEmpty then [] else ':' :: encode password
        | none => encode info
      some (if text.isEmpty then [] else text ++ ['@'], after)

/-- Split the host from what follows it. Colons inside brackets belong to the host. -/
def spanHost (kind : SchemeKind) : (inBrackets : Bool) → List Char → List Char × List Char
  | _, [] => ([], [])
  | inBrackets, c :: cs =>
    if (c == ':' && !inBrackets) || isSlash kind c || c == '?' || c == '#' then ([], c :: cs)
    else
      let inBrackets := if c = '[' then true else if c = ']' then false else inBrackets
      let (host, rest) := spanHost kind inBrackets cs
      (c :: host, rest)

/-- Read the port after a colon: none if it is the implied one or has no digits. -/
def readPort? (scheme : String) (cs : List Char) : Option (Option Nat × List Char) :=
  let digits := cs.takeWhile Text.isAsciiDigit
  let rest := cs.dropWhile Text.isAsciiDigit
  let ended := match rest with
    | [] => true
    | c :: _ => c == '/' || c == '\\' || c == '?' || c == '#'
  let port := Numeral.ofDigits digits
  if !ended || 65535 < port then none
  else if digits.isEmpty || defaultPort? scheme == some port then some (none, rest)
  else some (some port, rest)

/-- Read user information, host, port and path after the two slashes. -/
def readAuthority (kind : SchemeKind) (scheme : String) (cs : List Char) :
    Except ParseError Url := do
  let some (info, rest) := readUserInfo? kind cs | throw .invalidHost
  let (hostText, rest) := spanHost kind false rest
  let parsed := if kind.isKnown then Host.parse? hostText else Host.parseOpaque? hostText
  let some host := parsed | throw .invalidHost
  let text := host.render
  -- Without a host there is neither user nor port.
  if text.isEmpty && (kind.isKnown || !info.isEmpty || rest.head? == some ':') then
    throw .invalidHost
  let (port, rest) ← match rest with
    | ':' :: rest =>
      match readPort? scheme rest with
      | some found => pure found
      | none => throw .invalidHost
    | rest => pure (none, rest)
  let portText := match port with
    | some n => ':' :: Nat.toDigits 10 n
    | none => []
  pure
    { kind
      front := scheme.toList ++ [':', '/', '/'] ++ info ++ text ++ portText
      path := pathOf kind (beforeQuery rest)
      opaquePath := false }

/-- Read what follows the scheme of a file. -/
def readFile (cs : List Char) : Except ParseError Url :=
  let file (host rest : List Char) : Url :=
    { kind := .file
      front := ['f', 'i', 'l', 'e', ':', '/', '/'] ++ host
      path := pathOf .file ('/' :: beforeQuery rest)
      opaquePath := false }
  match cs with
  | a :: b :: rest =>
    if isSlash .file a && isSlash .file b then
      let hostText := rest.takeWhile fun c => !(isSlash .file c || c == '?' || c == '#')
      if isDriveLetter hostText then .ok (file [] rest)
      else
        let rest := rest.drop hostText.length
        if hostText.isEmpty then .ok (file [] rest)
        else
          match Host.parse? hostText with
          | none => .error .invalidHost
          | some host =>
            let text := host.render
            .ok (file (if text = "localhost".toList then [] else text) rest)
    else .ok (file [] (a :: b :: rest))
  | cs => .ok (file [] cs)

/-- Read what follows an unknown scheme. -/
def readUnknown (scheme : String) (cs : List Char) : Except ParseError Url :=
  match cs with
  | '/' :: '/' :: rest => readAuthority .unknown scheme rest
  | '/' :: rest =>
    let path := pathOf .unknown ('/' :: beforeQuery rest)
    -- A path that starts with two slashes is kept apart from a host by a dot.
    let dot := match path with
      | '/' :: '/' :: _ => ['/', '.']
      | _ => []
    .ok { kind := .unknown, front := scheme.toList ++ ':' :: dot, path, opaquePath := false }
  | cs =>
    let path := Percent.encode Percent.isControl (beforeQuery cs)
    let path := (path.reverse.dropWhile (· == ' ')).reverse
    .ok { kind := .unknown, front := scheme.toList ++ [':'], path, opaquePath := true }

/-! ## Whole addresses -/

/-- Drop controls and spaces at both ends, and tabs and line ends everywhere. -/
def clean (raw : String) : List Char :=
  let isEdge (c : Char) : Bool := c.toNat ≤ 0x20
  let cs := raw.toList.dropWhile isEdge
  let cs := (cs.reverse.dropWhile isEdge).reverse
  cs.filter fun c => c != '\t' && c != '\n' && c != '\x0d'

/-- A character of a scheme after its first. -/
def isSchemeChar (c : Char) : Bool :=
  Text.isAsciiLetter c || Text.isAsciiDigit c || c == '+' || c == '-' || c == '.'

/-- The scheme of a text, lowered, and what follows its colon. -/
def splitScheme? (cs : List Char) : Option (String × List Char) :=
  match cs with
  | [] => none
  | c :: _ =>
    if Text.isAsciiLetter c then
      match cs.dropWhile isSchemeChar with
      | ':' :: rest => some (String.ofList (Text.lowerAscii (cs.takeWhile isSchemeChar)), rest)
      | _ => none
    else none

/-- Read an absolute address from a cleaned text. -/
def parseClean (cs : List Char) : Except ParseError Url :=
  match splitScheme? cs with
  | none => .error .relative
  | some (scheme, rest) =>
    match SchemeKind.ofName scheme with
    | .file => readFile rest
    | .special => readAuthority .special scheme (rest.dropWhile (isSlash .special))
    | .unknown => readUnknown scheme rest

/-- Read a reference without a scheme. The host of the page that it stands on is not known, so
only its path counts. -/
def parseReference (cs : List Char) : Except ParseError Url :=
  let page (path : List Char) : Url :=
    { kind := .special, front := [], path, opaquePath := false }
  match cs with
  | a :: b :: rest =>
    if isSlash .special a && isSlash .special b then
      let authority :=
        if a = '/' && b = '/' then rest else rest.dropWhile (isSlash .special)
      (readAuthority .special "http" authority).map fun url => page url.path
    else .ok (page (pathOf .special (beforeQuery (a :: b :: rest))))
  | cs => .ok (page (pathOf .special (beforeQuery cs)))

/-- Replace the path by segments joined with slashes. -/
def withSegments (url : Url) (segments : List (List Char)) : Url :=
  let text := Text.joinWith '/' segments
  if url.opaquePath then { url with path := Percent.encode Percent.isControl text }
  else { url with path := pathOf url.kind text }

/-- The segments of the path; an opaque path has none. -/
def segments (url : Url) : List (List Char) :=
  match url.path with
  | '/' :: rest => Text.splitOn '/' rest
  | _ => []

/-- The text of an address. -/
def render (url : Url) : String :=
  String.ofList (url.front ++ url.path)

end Url

end Catalog
