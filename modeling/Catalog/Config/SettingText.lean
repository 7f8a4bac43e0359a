import Catalog.Binary64.Decimal
import Catalog.Json.Basic
import Catalog.Text.Blank
import Catalog.Text.Split

/-!
# Settings written as texts

The value that a short text stands for: truth values, numbers, quoted texts, lists in brackets and
maps in braces. A text that is none of these stands for itself.
-/

namespace Catalog.SettingText

/-- ASCII blanks, as they stand between the parts of a value. -/
def isSpace (c : Char) : Bool :=
  c == ' ' || c == '\t' || c == '\n' || c == '\x0c' || c == '\r'

/-- Drop leading ASCII blanks. -/
def skipSpace (cs : List Char) : List Char := cs.dropWhile isSpace

/-- Characters that end a bare word. -/
def isSeparator (c : Char) : Bool :=
  c == ',' || c == '{' || c == '}' || c == '[' || c == ']'

/-- Characters of a bare key. -/
def isKeyChar (c : Char) : Bool :=
  Text.isAsciiLetter c || Text.isAsciiDigit c || c == '_' || c == '-'

/-- The text up to the closing quotation mark, as written, and what follows the mark. -/
def spanQuoted? : (escaped : Bool) → List Char → Option (List Char × List Char)
  | _, [] => none
  | true, c :: cs => (spanQuoted? false cs).map fun (s, rest) => (c :: s, rest)
  | false, '"' :: cs => some ([], cs)
  | false, c :: cs => (spanQuoted? (c == '\\') cs).map fun (s, rest) => (c :: s, rest)

/-- The value of exactly `width` hexadecimal digits, and what follows them. -/
def readHex? : (width : Nat) → (acc : Nat) → List Char → Option (Nat × List Char)
  | 0, acc, cs => some (acc, cs)
  | _ + 1, _, [] => none
  | width + 1, acc, c :: cs => (Text.hexValue? c).bind fun d => readHex? width (acc * 16 + d) cs

theorem length_of_readHex? {width acc n : Nat} {cs rest : List Char}
    (h : readHex? width acc cs = some (n, rest)) : rest.length ≤ cs.length := by
  induction width generalizing acc cs with
  | zero => simp [readHex?] at h; simp [h]
  | succ width ih =>
    cases cs with
    | nil => simp [readHex?] at h
    | cons c cs =>
      simp only [readHex?, Option.bind_eq_some_iff] at h
      obtain ⟨d, _, hr⟩ := h
      have := ih hr
      simp; omega

/-- A character by its code point. -/
def charOf? (n : Nat) : Option Char :=
  if h : n.isValidChar then some (Char.ofNatAux n h) else none

/-- Undo the escapes of a quoted text. Control characters other than the tab are refused. -/
def unescape? (cs : List Char) : Option (List Char) :=
  match cs with
  | [] => some []
  | '\\' :: 'u' :: rest =>
    match h : readHex? 4 0 rest with
    | none => none
    | some (n, rest') =>
      have := length_of_readHex? h
      (charOf? n).bind fun c => (unescape? rest').map (c :: ·)
  | '\\' :: 'U' :: rest =>
    match h : readHex? 8 0 rest with
    | none => none
    | some (n, rest') =>
      have := length_of_readHex? h
      (charOf? n).bind fun c => (unescape? rest').map (c :: ·)
  | '\\' :: c :: rest =>
    let plain? : Option Char := match c with
      | '"' => some '"'
      | '\\' => some '\\'
      | 'b' => some '\x08'
      | 'f' => some '\x0c'
      | 'n' => some '\n'
      | 'r' => some '\r'
      | 't' => some '\t'
      | _ => none
    plain?.bind fun c => (unescape? rest).map (c :: ·)
  | c :: rest =>
    if c = '\t' ∨ (' ' ≤ c ∧ c ≠ '\x7f') then (unescape? rest).map (c :: ·) else none
termination_by cs.length

/-- A quoted text, and what follows it. -/
def readQuoted? (cs : List Char) : Option (String × List Char) :=
  match cs with
  | '"' :: cs => (spanQuoted? false cs).bind fun (s, rest) =>
      (unescape? s).map fun s => (String.ofList s, rest)
  | _ => none

/-- A double in decimal, or one of the words for infinity and for no number. -/
def readDouble? (cs : List Char) : Option Binary64 :=
  let (negative, body) := match cs with
    | '-' :: cs => (true, cs)
    | '+' :: cs => (false, cs)
    | cs => (false, cs)
  let word := Text.lowerAscii body
  if word = "inf".toList ∨ word = "infinity".toList then
    some (Binary64.ofMagnitude negative Binary64.infinityMagnitude)
  else if word = "nan".toList then
    some (Binary64.ofMagnitude negative (Binary64.infinityMagnitude + 0x8000000000000))
  else Binary64.read? cs

/-- A word without quotation marks: an integer, a double, or the word itself. -/
def bareValue (word : List Char) : Json :=
  match Numeral.readUInt64 word, Numeral.readInt64 word, readDouble? word with
  | .ok n, _, _ => Json.nat n.toNat
  | _, .ok n, _ => Json.int n.toInt
  | _, _, some x => Json.double x
  | _, _, none => .string (String.ofList word)

/-- The key of an entry of a map, and what follows it. -/
def readKey? (cs : List Char) : Option (String × List Char) :=
  match cs with
  | '"' :: _ => readQuoted? cs
  | _ =>
    match cs.span isKeyChar with
    | ([], _) => none
    | (key, rest) => some (String.ofList key, rest)

mutual

/-- A value and what follows it with its blanks. -/
def readValue? : (fuel : Nat) → List Char → Option (Json × List Char)
  | 0, _ => none
  | fuel + 1, cs =>
    let cs := skipSpace cs
    let found : Option (Json × List Char) :=
      match Text.dropLead? "true".toList cs, Text.dropLead? "false".toList cs, cs with
      | some rest, _, _ => some (.bool true, rest)
      | _, some rest, _ => some (.bool false, rest)
      | _, _, '\x7b' :: rest => readEntries? fuel [] rest
      | _, _, '[' :: rest => readItems? fuel [] rest
      | _, _, '"' :: _ => (readQuoted? cs).map fun (s, rest) => (.string s, rest)
      | _, _, '\'' :: c :: '\'' :: rest => some (.string (String.singleton c), rest)
      | _, _, '\'' :: _ => none
      | _, _, _ =>
        let (word, rest) := cs.span fun c => !isSeparator c
        some (bareValue (Text.trim word), rest)
    found.map fun (value, rest) => (value, skipSpace rest)

/-- The items of a list, after its opening bracket; a comma may stand behind the last. -/
def readItems? : (fuel : Nat) → (acc : List Json) → List Char → Option (Json × List Char)
  | 0, _, _ => none
  | _ + 1, acc, ']' :: rest => some (.array acc.reverse, rest)
  | fuel + 1, acc, cs =>
    match readValue? fuel cs with
    | some (value, ']' :: rest) => some (.array (value :: acc).reverse, rest)
    | some (value, ',' :: rest) => readItems? fuel (value :: acc) rest
    | _ => none

/-- The entries of a map, after its opening brace; a comma may stand behind the last. -/
def readEntries? : (fuel : Nat) → (acc : Json.Fields) → List Char → Option (Json × List Char)
  | 0, _, _ => none
  | _ + 1, acc, '\x7d' :: rest => some (.object acc, rest)
  | fuel + 1, acc, cs =>
    match (readKey? (skipSpace cs)).map fun (key, rest) => (key, skipSpace rest) with
    | some (key, '=' :: rest) =>
      match readValue? fuel (skipSpace rest) with
      | some (value, '\x7d' :: rest) => some (.object (SortedMap.insertEntry key value acc), rest)
      | some (value, ',' :: rest) => readEntries? fuel (SortedMap.insertEntry key value acc) rest
      | _ => none
    | _ => none

end

/-- The value that a text stands for. -/
def value (s : String) : Json :=
  match readValue? (2 * s.toList.length + 2) s.toList with
  | some (value, []) => value
  | _ => .string s

end Catalog.SettingText
