import Catalog.Json.Basic
import Catalog.Binary64.Decimal

/-!
# Reading JSON

A strict reader: one value between optional blanks, at most 127 containers deep. Objects keep
their fields as written, repetitions included. An integer literal within 64 bits is an integer,
every other number a double, and one that rounds to infinity is refused.
-/

namespace Catalog.Json

/-- A blank of the JSON grammar. -/
def isSpace (c : Char) : Bool :=
  c == ' ' || c == '\n' || c == '\t' || c == '\r'

/-- Skip blanks. -/
def skipSpace (cs : List Char) : List Char :=
  cs.dropWhile isSpace

/-- The value of four hexadecimal digits. -/
def readHex4? : List Char → Option (Nat × List Char)
  | a :: b :: c :: d :: rest => do
    let a ← Text.hexValue? a
    let b ← Text.hexValue? b
    let c ← Text.hexValue? c
    let d ← Text.hexValue? d
    some (((a * 16 + b) * 16 + c) * 16 + d, rest)
  | _ => none

/-- The character of an escape after its `u`, which may take a pair of escapes. -/
def readUnicodeEscape? (cs : List Char) : Option (Char × List Char) := do
  let (n, rest) ← readHex4? cs
  if 0xDC00 ≤ n ∧ n ≤ 0xDFFF then none
  else if 0xD800 ≤ n ∧ n ≤ 0xDBFF then
    match rest with
    | '\\' :: 'u' :: rest =>
      let (m, rest) ← readHex4? rest
      if 0xDC00 ≤ m ∧ m ≤ 0xDFFF then
        some (Char.ofNat (0x10000 + (n - 0xD800) * 0x400 + (m - 0xDC00)), rest)
      else none
    | _ => none
  else some (Char.ofNat n, rest)

/-- Read a string literal after its opening quote; `acc` holds the text so far, reversed. -/
def readString? : (fuel : Nat) → (acc : List Char) → List Char → Option (String × List Char)
  | 0, _, _ => none
  | _ + 1, _, [] => none
  | fuel + 1, acc, c :: cs =>
    if c = '"' then some (String.ofList acc.reverse, cs)
    else if c = '\\' then
      match cs with
      | '"' :: cs => readString? fuel ('"' :: acc) cs
      | '\\' :: cs => readString? fuel ('\\' :: acc) cs
      | '/' :: cs => readString? fuel ('/' :: acc) cs
      | 'b' :: cs => readString? fuel ('\x08' :: acc) cs
      | 'f' :: cs => readString? fuel ('\x0c' :: acc) cs
      | 'n' :: cs => readString? fuel ('\n' :: acc) cs
      | 'r' :: cs => readString? fuel ('\r' :: acc) cs
      | 't' :: cs => readString? fuel ('\t' :: acc) cs
      | 'u' :: cs =>
        match readUnicodeEscape? cs with
        | some (c, cs) => readString? fuel (c :: acc) cs
        | none => none
      | _ => none
    else if c.toNat < 0x20 then none
    else readString? fuel (c :: acc) cs

/-- Split off the longest run of digits. -/
def spanDigits (cs : List Char) : List Char × List Char :=
  (cs.takeWhile Text.isAsciiDigit, cs.dropWhile Text.isAsciiDigit)

/-- The number of an integer literal; the literal `-0` is the negative zero. -/
def ofIntLiteral? (negative : Bool) (n : Nat) : Option JsonNumber :=
  if negative then
    if n = 0 ∨ 0x8000000000000000 < n then
      let x := Binary64.ofDecimal true n 0
      if x.isFinite then some (.double x) else none
    else some (.int (-(n : Int)))
  else if n < 0x10000000000000000 then some (.int n)
  else
    let x := Binary64.ofDecimal false n 0
    if x.isFinite then some (.double x) else none

/-- Read the fraction behind the whole part of a number: nothing without a point. -/
def readFraction? : List Char → Option (List Char × List Char)
  | '.' :: rest =>
    let (ds, rest) := spanDigits rest
    if ds.isEmpty then none else some (ds, rest)
  | rest => some ([], rest)

/-- Read the power of ten behind whole part and fraction, if there is one. -/
def readPower? (cs : List Char) : Option (Option Int × List Char) :=
  match cs with
  | c :: rest =>
    if c = 'e' ∨ c = 'E' then
      let (minus, rest) := match rest with
        | '-' :: rest => (true, rest)
        | '+' :: rest => (false, rest)
        | rest => (false, rest)
      let (ds, rest) := spanDigits rest
      if ds.isEmpty then none
      else
        let e : Int := Numeral.ofDigits ds
        some (some (if minus then -e else e), rest)
    else some (none, cs)
  | [] => some (none, [])

/-- Read an unsigned number literal after an optional minus sign. -/
def readNumber? (negative : Bool) (cs : List Char) : Option (JsonNumber × List Char) :=
  let (whole, rest) := spanDigits cs
  if whole.isEmpty || (whole.length != 1 && whole.head? == some '0') then none
  else
    match readFraction? rest with
    | none => none
    | some (fraction, rest) =>
      match readPower? rest with
      | none => none
      | some (power, rest) =>
        if fraction.isEmpty && power.isNone then
          (ofIntLiteral? negative (Numeral.ofDigits whole)).map fun n => (n, rest)
        else
          let x := Binary64.ofDecimal negative (Numeral.ofDigits (whole ++ fraction))
            (power.getD 0 - fraction.length)
          if x.isFinite then some (.double x, rest) else none

mutual

/-- Read a value; `depth` is the number of containers that may still be opened. -/
def readValue? : (fuel depth : Nat) → List Char → Option (Json × List Char)
  | 0, _, _ => none
  | fuel + 1, depth, cs =>
    match skipSpace cs with
    | 'n' :: 'u' :: 'l' :: 'l' :: rest => some (.null, rest)
    | 't' :: 'r' :: 'u' :: 'e' :: rest => some (.bool true, rest)
    | 'f' :: 'a' :: 'l' :: 's' :: 'e' :: rest => some (.bool false, rest)
    | '"' :: rest => (readString? (rest.length + 1) [] rest).map fun (s, rest) => (.string s, rest)
    | '[' :: rest =>
      if depth = 0 then none
      else match skipSpace rest with
        | ']' :: rest => some (.array [], rest)
        | rest => readItems? fuel (depth - 1) [] rest
    | '\x7b' :: rest =>
      if depth = 0 then none
      else match skipSpace rest with
        | '\x7d' :: rest => some (.object [], rest)
        | rest => readFields? fuel (depth - 1) [] rest
    | '-' :: rest => (readNumber? true rest).map fun (n, rest) => (.number n, rest)
    | rest => (readNumber? false rest).map fun (n, rest) => (.number n, rest)

/-- Read the items of an array after `[` or `,`, up to the closing bracket. -/
def readItems? : (fuel depth : Nat) → (acc : List Json) → List Char → Option (Json × List Char)
  | 0, _, _, _ => none
  | fuel + 1, depth, acc, cs =>
    match readValue? fuel depth cs with
    | none => none
    | some (item, rest) =>
      match skipSpace rest with
      | ',' :: rest => readItems? fuel depth (item :: acc) rest
      | ']' :: rest => some (.array (item :: acc).reverse, rest)
      | _ => none

/-- Read the fields of an object after its opening brace or a comma, up to the closing brace. -/
def readFields? : (fuel depth : Nat) → (acc : Fields) → List Char → Option (Json × List Char)
  | 0, _, _, _ => none
  | fuel + 1, depth, acc, cs =>
    match skipSpace cs with
    | '"' :: rest =>
      match readString? (rest.length + 1) [] rest with
      | none => none
      | some (key, rest) =>
        match skipSpace rest with
        | ':' :: rest =>
          match readValue? fuel depth rest with
          | none => none
          | some (value, rest) =>
            match skipSpace rest with
            | ',' :: rest => readFields? fuel depth ((key, value) :: acc) rest
            | '\x7d' :: rest => some (.object ((key, value) :: acc).reverse, rest)
            | _ => none
        | _ => none
    | _ => none

end

/-- The number of containers that may stand inside each other. -/
def maxDepth : Nat := 127

/-- Read a text that is one value and nothing else. -/
def parse? (s : String) : Option Json :=
  let cs := s.toList
  match readValue? (2 * cs.length + 2) maxDepth cs with
  | some (j, rest) => if (skipSpace rest).isEmpty then some j else none
  | none => none

end Catalog.Json
