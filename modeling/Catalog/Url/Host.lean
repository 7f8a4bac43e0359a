import Catalog.Numeral
import Catalog.Text.Blank
import Catalog.Text.Percent
import Catalog.Text.Split
import Catalog.Unicode.Lookup

/-!
# Hosts

Domain names, internet addresses of both versions, and hosts of unknown schemes. A domain is
lowered and its labels outside ASCII are written in Punycode; a domain that ends in a number is an
address.
-/

namespace Catalog.Url

/-- The hosts of addresses. -/
inductive Host where
  /-- A domain, or a host of a scheme that says nothing about hosts. -/
  | name (text : List Char)
  /-- An address of 32 bits. -/
  | ipv4 (address : Nat)
  /-- An address of eight pieces of 16 bits. -/
  | ipv6 (pieces : List Nat)

/-! ## Addresses of version 4 -/

/-- A number of a dotted address: decimal, octal after a zero, hexadecimal after `0x`. The outer
`none` is no number at all, the inner one a number of more than 32 bits. -/
def ipv4Number? (cs : List Char) : Option (Option Nat) :=
  let read (base : Nat) (digits : List Char) : Option (Option Nat) :=
    (digits.foldlM (fun n c => do
      let d ← Text.hexValue? c
      if d < base then some (n * base + d) else none) 0).map fun n =>
      if n < 0x100000000 then some n else none
  match cs with
  | [] => none
  | '0' :: 'x' :: digits => read 16 digits
  | '0' :: 'X' :: digits => read 16 digits
  | '0' :: d :: digits => read 8 (d :: digits)
  | digits => read 10 digits

/-- The parts between dots, without an empty part at the end. -/
def dottedParts (cs : List Char) : List (List Char) :=
  let parts := Text.splitOn '.' cs
  if parts.getLast? == some [] then parts.dropLast else parts

/-- The last part is a number. -/
def endsInNumber (cs : List Char) : Bool :=
  match (dottedParts cs).getLast? with
  | none => false
  | some part => (!part.isEmpty && part.all Text.isAsciiDigit) || (ipv4Number? part).isSome

/-- Read a dotted address; the last number fills the bytes that are left. -/
def readIpv4? (cs : List Char) : Option Nat := do
  let parts := dottedParts cs
  if 4 < parts.length then none
  let numbers ← parts.mapM fun part => (ipv4Number? part).bind id
  let last ← numbers.getLast?
  let leading := numbers.dropLast
  if leading.any (255 < ·) || Nat.pow 256 (4 - leading.length) ≤ last then none
  else
    some ((leading.zip (List.range 4)).foldl (fun n (b, i) => n + b * Nat.pow 256 (3 - i)) last)

/-- An address with dots. -/
def renderIpv4 (address : Nat) : List Char :=
  Text.joinWith '.' ([3, 2, 1, 0].map fun i => Nat.toDigits 10 (address / Nat.pow 256 i % 256))

/-! ## Addresses of version 6 -/

/-- A decimal byte without leading zeros. -/
def decimalByte? (cs : List Char) : Option Nat :=
  if cs.isEmpty || !cs.all Text.isAsciiDigit || (cs.length != 1 && cs.head? == some '0') then none
  else
    let n := Numeral.ofDigits cs
    if n < 256 then some n else none

/-- The two pieces of an address with dots at the end of a long one. -/
def embeddedIpv4? (cs : List Char) : Option (List Nat) :=
  match (Text.splitOn '.' cs).mapM decimalByte? with
  | some [a, b, c, d] => some [a * 256 + b, c * 256 + d]
  | _ => none

/-- A piece of up to four hexadecimal digits. -/
def ipv6Piece? (cs : List Char) : Option Nat :=
  if cs.isEmpty || 4 < cs.length then none
  else cs.foldlM (fun n c => (Text.hexValue? c).map fun d => n * 16 + d) 0

/-- Pieces between colons; the last one may be an address with dots. -/
def ipv6Pieces? (cs : List Char) : Option (List Nat) :=
  if cs.isEmpty then some []
  else
    let parts := Text.splitOn ':' cs
    match parts.getLast? with
    | some last =>
      if last.contains '.' then do
        let front ← parts.dropLast.mapM ipv6Piece?
        let back ← embeddedIpv4? last
        some (front ++ back)
      else parts.mapM ipv6Piece?
    | none => none

/-- Cut at the first double colon. -/
def splitDoubleColon : List Char → Option (List Char × List Char)
  | ':' :: ':' :: rest => some ([], rest)
  | c :: rest => (splitDoubleColon rest).map fun (before, after) => (c :: before, after)
  | [] => none

/-- Read an address of eight pieces; a double colon stands for at least one zero piece. -/
def readIpv6? (cs : List Char) : Option (List Nat) :=
  match splitDoubleColon cs with
  | none => do
    let pieces ← ipv6Pieces? cs
    if pieces.length = 8 then some pieces else none
  | some (before, after) => do
    -- An address with dots stands at the very end only.
    if before.contains '.' then none
    let front ← ipv6Pieces? before
    let back ← ipv6Pieces? after
    let missing := 8 - (front.length + back.length)
    if missing = 0 then none else some (front ++ List.replicate missing 0 ++ back)

/-- The start and the length of the first longest run of zero pieces. -/
def longestZeros : (index : Nat) → (run : Nat) → (best : Nat × Nat) → List Nat → Nat × Nat
  | _, _, best, [] => best
  | index, run, best, p :: ps =>
    if p = 0 then
      let run := run + 1
      longestZeros (index + 1) run (if best.2 < run then (index + 1 - run, run) else best) ps
    else longestZeros (index + 1) 0 best ps

/-- An address of eight pieces, with the longest run of at least two zeros left out. -/
def renderIpv6 (pieces : List Nat) : List Char :=
  let hex (ps : List Nat) := Text.joinWith ':' (ps.map (Nat.toDigits 16))
  let (start, length) := longestZeros 0 0 (0, 0) pieces
  if length < 2 then hex pieces
  else hex (pieces.take start) ++ [':', ':'] ++ hex (pieces.drop (start + length))

/-! ## Domains -/

/-- The threshold of a digit of a variable-length number. -/
def punycodeThreshold (k bias : Nat) : Nat :=
  if k ≤ bias then 1 else if bias + 26 ≤ k then 26 else k - bias

/-- A digit of base 36. -/
def punycodeDigit (d : Nat) : Char :=
  if d < 26 then Char.ofNat (97 + d) else Char.ofNat (22 + d)

/-- A threshold is between 1 and 26, so that every digit leaves less to write. -/
theorem punycodeThreshold_bounds (k bias : Nat) :
    1 ≤ punycodeThreshold k bias ∧ punycodeThreshold k bias ≤ 26 := by
  unfold punycodeThreshold
  split
  · omega
  · split <;> omega

/-- A variable-length number, from its digit of weight `k` on. -/
def punycodeNumber (bias k q : Nat) : List Char :=
  let t := punycodeThreshold k bias
  if q < t then [punycodeDigit q]
  else punycodeDigit (t + (q - t) % (36 - t)) :: punycodeNumber bias (k + 36) ((q - t) / (36 - t))
termination_by q
decreasing_by
  have hbounds := punycodeThreshold_bounds k bias
  have hle := Nat.div_le_self (q - punycodeThreshold k bias) (36 - punycodeThreshold k bias)
  omega

/-- The bias after a number has been written. -/
def punycodeBias (delta k : Nat) : Nat :=
  if 455 < delta then punycodeBias (delta / 35) (k + 36) else k + 36 * delta / (delta + 38)
termination_by delta

/-- Write the characters from `next` on in increasing order; `handled` characters are written. -/
def punycodeTail (input : List Nat) : (fuel next delta bias handled : Nat) → (first : Bool) → List Char
  | 0, _, _, _, _, _ => []
  | fuel + 1, next, delta, bias, handled, first =>
    match (input.filter (next ≤ ·)).min? with
    | none => []
    | some m =>
      let start := delta + (m - next) * (handled + 1)
      let (out, delta, bias, handled, first) := input.foldl
        (fun (out, delta, bias, handled, first) c =>
          if c < m then (out, delta + 1, bias, handled, first)
          else if c = m then
            let step := if first then delta / 700 else delta / 2
            (out ++ punycodeNumber bias 36 delta, 0,
              punycodeBias (step + step / (handled + 1)) 0, handled + 1, false)
          else (out, delta, bias, handled, first))
        (([] : List Char), start, bias, handled, first)
      out ++ punycodeTail input fuel (m + 1) (delta + 1) bias handled first

/-- A label in Punycode, if it is not ASCII. -/
def encodeLabel (label : List Char) : List Char :=
  if label.all fun c => c.toNat < 0x80 then label
  else
    let basic := label.filter fun c => c.toNat < 0x80
    let lead := if basic.isEmpty then [] else basic ++ ['-']
    ['x', 'n', '-', '-'] ++ lead ++
      punycodeTail (label.map Char.toNat) (label.length + 1) 0x80 0 72 basic.length true

/-- Lower a character, and read the ideographic and wide full stops as dots. -/
def lowerDomainChar (c : Char) : Char :=
  if c.toNat < 0x80 then c.toLower
  else if c.toNat = 0x3002 ∨ c.toNat = 0xFF0E ∨ c.toNat = 0xFF61 then '.'
  else
    match Unicode.orbit? c.toNat with
    | none => c
    | some orbit =>
      let lower := (Unicode.find? Unicode.categories "ll").getD []
      if lower.contains c.toNat then c
      else Char.ofNat ((orbit.find? fun n => lower.contains n).getD c.toNat)

/-- Characters that no domain holds. -/
def isForbiddenInDomain (c : Char) : Bool :=
  c.toNat ≤ 0x20 || c.toNat == 0x7F || "%#/:<>?@[\\]^|".toList.contains c

/-- A domain in ASCII. This stands in for the processing of UTS 46: letters are lowered one by one,
without its table of mappings, and labels that start with `xn--` are taken as they are, without the
checks that refuse those that decode to nothing valid, such as `xn--a`. -/
def domainToAscii? (cs : List Char) : Option (List Char) :=
  let lowered := (cs.filter fun c => c.toNat != 0xAD).map lowerDomainChar
  let ascii := Text.joinWith '.' ((Text.splitOn '.' lowered).map encodeLabel)
  let bad := ascii.any isForbiddenInDomain ||
    lowered.any fun c => 0x80 ≤ c.toNat && (Text.isBlank c || Unicode.unassigned.contains c.toNat)
  if bad then none else some ascii

/-- Read an address in brackets. -/
def bracketed? (cs : List Char) : Option Host :=
  match cs.reverse with
  | ']' :: inner => (readIpv6? (inner.reverse.drop 1)).map .ipv6
  | _ => none

/-- Read the host of a known scheme. -/
def Host.parse? (cs : List Char) : Option Host :=
  if cs.head? == some '[' then bracketed? cs
  else do
    let decoded ← Text.decodeUtf8? (Percent.decode cs)
    let domain ← domainToAscii? decoded
    if domain.isEmpty then none
    else if endsInNumber domain then (readIpv4? domain).map .ipv4
    else some (.name domain)

/-- Characters that no host of an unknown scheme holds. -/
def isForbiddenInHost (c : Char) : Bool :=
  "\x00\t\n\r #/:<>?@[\\]^|".toList.contains c

/-- Read the host of an unknown scheme. -/
def Host.parseOpaque? (cs : List Char) : Option Host :=
  if cs.head? == some '[' then bracketed? cs
  else if cs.any isForbiddenInHost then none
  else some (.name (Percent.encode Percent.isControl cs))

/-- The text of a host. -/
def Host.render : Host → List Char
  | .name text => text
  | .ipv4 address => renderIpv4 address
  | .ipv6 pieces => '[' :: (renderIpv6 pieces ++ [']'])

end Catalog.Url
