import Catalog.Text.Ascii

/-!
# Reading integers of a fixed range

An integer is an optional sign and at least one ASCII digit, and must lie in the range asked for.
The first character at fault, read from the left, decides the error.
-/

namespace Catalog

/-- Why a text is not an integer of the range asked for. -/
inductive NumeralError where
  /-- There is no text. -/
  | empty
  /-- A character is no digit, or there is a sign alone. -/
  | invalidDigit
  /-- The number lies above the range. -/
  | tooLarge
  /-- The number lies below the range. -/
  | tooSmall
deriving DecidableEq, Repr

namespace NumeralError

/-- The wording of each cause. -/
def message : NumeralError → String
  | empty => "cannot parse integer from empty string"
  | invalidDigit => "invalid digit found in string"
  | tooLarge => "number too large to fit in target type"
  | tooSmall => "number too small to fit in target type"

end NumeralError

namespace Numeral

/-- Continue a number `acc` with digits, up to the bound `max`; `above` is the error above it. -/
def readDigits (max : Nat) (above : NumeralError) : (acc : Nat) → List Char → Except NumeralError Nat
  | acc, [] => .ok acc
  | acc, c :: cs =>
    match Text.digitValue? c with
    | none => .error .invalidDigit
    | some d =>
      if max < acc * 10 + d then .error above else readDigits max above (acc * 10 + d) cs

/-- Read a natural number up to `max`; a leading plus sign is allowed. -/
def readNat (max : Nat) : List Char → Except NumeralError Nat
  | [] => .error .empty
  | ['+'] => .error .invalidDigit
  | '+' :: cs => readDigits max .tooLarge 0 cs
  | cs => readDigits max .tooLarge 0 cs

/-- Read an integer of 64 bits with an optional sign. -/
def readInt64 : List Char → Except NumeralError Int64
  | [] => .error .empty
  | ['+'] => .error .invalidDigit
  | ['-'] => .error .invalidDigit
  | '-' :: cs => (readDigits 0x8000000000000000 .tooSmall 0 cs).map fun n => Int64.ofInt (-(n : Int))
  | '+' :: cs => (readDigits 0x7FFFFFFFFFFFFFFF .tooLarge 0 cs).map fun n => Int64.ofInt n
  | cs => (readDigits 0x7FFFFFFFFFFFFFFF .tooLarge 0 cs).map fun n => Int64.ofInt n

/-- Read a natural number of 64 bits. -/
def readUInt64 (cs : List Char) : Except NumeralError UInt64 :=
  (readNat 0xFFFFFFFFFFFFFFFF cs).map UInt64.ofNat

/-- The value of a run of digits, without a bound; anything else counts as nothing. -/
def ofDigits (cs : List Char) : Nat :=
  cs.foldl (fun acc c => match Text.digitValue? c with
    | some d => acc * 10 + d
    | none => acc) 0

/-- A number in decimal, padded with zeros on the left to at least `width` digits. -/
def padded (width n : Nat) : List Char :=
  let digits := Nat.toDigits 10 n
  List.replicate (width - digits.length) '0' ++ digits

end Numeral

end Catalog
