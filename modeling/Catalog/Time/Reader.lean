import Catalog.Text.Blank
import Catalog.Time.Instant

/-!
# Reading dates and times

Three grammars. `Instant.readTimestamp` takes RFC 3339 to the letter. `Instant.readStored` is its
relaxed form for stored documents, with blanks around the parts and single digits.
`Instant.readLocalTime` and `Instant.readDate` take a time without an offset and a plain date, in
universal time; their numbers may have fewer digits, and a year may carry a sign.
-/

namespace Catalog

/-- Why a text is no date or time. -/
inductive TimeError where
  /-- A number is beyond its range, or the date does not exist. -/
  | outOfRange
  /-- No such local time exists at the offset. -/
  | impossible
  /-- A character does not fit. -/
  | invalid
  /-- The text ends too soon. -/
  | tooShort
  /-- The text goes on after its end. -/
  | tooLong
deriving DecidableEq, Repr

/-- The wording of each cause. -/
def TimeError.message : TimeError → String
  | outOfRange => "input is out of range"
  | impossible => "no possible date and time matching input"
  | invalid => "input contains invalid characters"
  | tooShort => "premature end of input"
  | tooLong => "trailing input"

namespace Time

/-- Readers of the front of a text; they return a value and the rest. -/
abbrev ReadM := Except TimeError

/-- Read a number of at least `least` and at most `most` digits, below `2 ^ 63`. -/
def number (least most : Nat) (cs : List Char) : ReadM (Nat × List Char) :=
  if cs.length < least then .error .tooShort
  else
    let ds := (cs.take most).takeWhile Text.isAsciiDigit
    if ds.length < least then .error .invalid
    else if 0x8000000000000000 ≤ Numeral.ofDigits ds then .error .outOfRange
    else .ok (Numeral.ofDigits ds, cs.drop ds.length)

/-- Read a given character. -/
def char (c : Char) : List Char → ReadM (Unit × List Char)
  | [] => .error .tooShort
  | d :: cs => if d = c then .ok ((), cs) else .error .invalid

/-- Check a number against its range. -/
def within (low high n : Nat) : Except TimeError Unit :=
  if low ≤ n ∧ n ≤ high then .ok () else .error .outOfRange

/-- Check that nanoseconds stay within a second. -/
def nanoseconds (n : Nat) : Except TimeError (Fin 1000000000) :=
  if h : n < 1000000000 then .ok ⟨n, h⟩ else .error .outOfRange

/-- Read a fraction of a second after its point: nine digits count, more are skipped. -/
def fraction (cs : List Char) : ReadM (Fin 1000000000 × List Char) := do
  let (n, rest) ← number 1 9 cs
  let used := cs.length - rest.length
  let nanos ← nanoseconds (n * Nat.pow 10 (9 - used))
  pure (nanos, rest.dropWhile Text.isAsciiDigit)

/-- Read an optional fraction of a second. -/
def optionalFraction : List Char → ReadM (Fin 1000000000 × List Char)
  | '.' :: cs => fraction cs
  | cs => .ok (0, cs)

/-- Read exactly two digits. A text is too short for them if it has fewer than two bytes. -/
def twoDigits : List Char → ReadM ((Nat × Nat) × List Char)
  | a :: b :: rest =>
    match Text.digitValue? a, Text.digitValue? b with
    | some a, some b => .ok ((a, b), rest)
    | _, _ => .error .invalid
  | [c] => if c.toNat < 0x80 then .error .tooShort else .error .invalid
  | [] => .error .tooShort

/-- Read the hours and minutes of an offset as seconds: two digits of hours, what `skip` takes, and
two digits of minutes. -/
def signedOffset (skip : List Char → ReadM (List Char)) (negative : Bool) (cs : List Char) :
    ReadM (Int × List Char) := do
  let ((a, b), rest) ← twoDigits cs
  let rest ← skip rest
  let ((c, d), rest) ← twoDigits rest
  if 6 ≤ c then throw .outOfRange
  let seconds : Int := ((a * 10 + b) * 3600 + (c * 10 + d) * 60 : Nat)
  pure (if negative then -seconds else seconds, rest)

/-- Read an offset as seconds: `Z`, or a sign with hours and minutes. The sign may be a proper minus
sign. -/
def offset (skip : List Char → ReadM (List Char)) (cs : List Char) : ReadM (Int × List Char) :=
  match cs with
  | [] => .error .tooShort
  | 'Z' :: rest => .ok (0, rest)
  | 'z' :: rest => .ok (0, rest)
  | '+' :: rest => signedOffset skip false rest
  | '-' :: rest => signedOffset skip true rest
  | '\u2212' :: rest => signedOffset skip true rest
  | _ => .error .invalid

/-- The three characters that may stand between date and time. -/
def separator : List Char → ReadM (Unit × List Char)
  | [] => .error .tooShort
  | c :: cs => if c = 'T' ∨ c = 't' ∨ c = ' ' then .ok ((), cs) else .error .invalid

/-- A date that must exist. -/
def existing (d : CivilDate) : Except TimeError CivilDate :=
  if d.isValid then .ok d else .error .outOfRange

/-- Read a number of one or two digits after blanks. -/
def looseNumber (cs : List Char) : ReadM (Nat × List Char) :=
  number 1 2 (Text.trimStart cs)

/-- Read a year: up to four digits, or any number of them after a sign. -/
def signedYear : List Char → ReadM (Int × List Char)
  | '-' :: cs => do
    let (n, rest) ← number 1 cs.length.succ cs
    pure (-(n : Int), rest)
  | '+' :: cs => do
    let (n, rest) ← number 1 cs.length.succ cs
    pure ((n : Int), rest)
  | cs => do
    let (n, rest) ← number 1 4 cs
    pure ((n : Int), rest)

/-- Read a year after blanks. It must fit into 32 bits. -/
def looseYear (cs : List Char) : ReadM (Int × List Char) := do
  let (year, rest) ← signedYear (Text.trimStart cs)
  if -0x80000000 ≤ year ∧ year < 0x80000000 then pure (year, rest) else throw .outOfRange

/-- Read `year-month-day` by readers of the year and of the other parts; `skip` is applied before
each dash. -/
def date (year : List Char → ReadM (Int × List Char)) (part : List Char → ReadM (Nat × List Char))
    (skip : List Char → List Char) (cs : List Char) : ReadM (CivilDate × List Char) := do
  let (y, cs) ← year cs
  let (_, cs) ← char '-' (skip cs)
  let (month, cs) ← part cs
  within 1 12 month
  let (_, cs) ← char '-' (skip cs)
  let (day, cs) ← part cs
  within 1 31 day
  pure (⟨y, month, day⟩, cs)

/-- Read `hour:minute:second` by a reader of the parts; `skip` is applied before each colon. -/
def clock (part : List Char → ReadM (Nat × List Char)) (skip : List Char → List Char)
    (cs : List Char) : ReadM ((Nat × Nat × Nat) × List Char) := do
  let (hour, cs) ← part cs
  within 0 23 hour
  let (_, cs) ← char ':' (skip cs)
  let (minute, cs) ← part cs
  within 0 59 minute
  let (_, cs) ← char ':' (skip cs)
  let (second, cs) ← part cs
  within 0 60 second
  pure ((hour, minute, second), cs)

/-- Read a year of four digits. -/
def strictYear (cs : List Char) : ReadM (Int × List Char) := do
  let (n, rest) ← number 4 4 cs
  pure ((n : Int), rest)

/-- Read a date with all its digits. -/
def strictDate (cs : List Char) : ReadM (CivilDate × List Char) :=
  date strictYear (number 2 2) id cs

/-- Read a time of day with all its digits. -/
def strictClock (cs : List Char) : ReadM ((Nat × Nat × Nat) × List Char) :=
  clock (number 2 2) id cs

/-- Read a date in the relaxed form. -/
def looseDate (skip : List Char → List Char) (cs : List Char) : ReadM (CivilDate × List Char) :=
  date looseYear looseNumber skip cs

/-- Read a time of day in the relaxed form. -/
def looseClock (skip : List Char → List Char) (cs : List Char) :
    ReadM ((Nat × Nat × Nat) × List Char) :=
  clock looseNumber skip cs

/-- Nothing may follow. -/
def finish (cs : List Char) : Except TimeError Unit :=
  if cs.isEmpty then .ok () else .error .tooLong

end Time

namespace Instant

open Time

/-- Read an RFC 3339 timestamp. -/
def readTimestamp (cs : List Char) : Except TimeError Instant := do
  let (date, cs) ← strictDate cs
  let (_, cs) ← separator cs
  let ((hour, minute, second), cs) ← strictClock cs
  let (nanos, cs) ← optionalFraction cs
  let (offset, cs) ← Time.offset (fun cs => (char ':' cs).map (·.2)) cs
  if 86400 ≤ offset.natAbs then throw .outOfRange
  finish cs
  let date ← existing date
  pure (ofLocal ⟨date, hour, minute, second, nanos, nanos.isLt⟩ offset)

/-- Skip colons and blanks. -/
private def skipColons (cs : List Char) : List Char :=
  cs.dropWhile fun c => c == ':' || Text.isBlank c

/-- Read the timestamp of a stored document. -/
def readStored (cs : List Char) : Except TimeError Instant := do
  let (date, cs) ← looseDate Text.trimStart cs
  let (_, cs) ← separator cs
  let ((hour, minute, second), cs) ← looseClock Text.trimStart cs
  let (nanos, cs) ← optionalFraction cs
  let cs := Text.trimStart cs
  let (offset, cs) ←
    if Text.sameIgnoringCase (cs.take 3) ['u', 't', 'c'] then .ok (0, cs.drop 3)
    else Time.offset (fun cs => .ok (skipColons cs)) cs
  finish (Text.trimStart cs)
  let date ← existing date
  if 86400 ≤ offset.natAbs then throw .outOfRange
  let instant := ofLocal ⟨date, hour, minute, second, nanos, nanos.isLt⟩ offset
  let year := (CivilDate.ofDayNumber (instant.seconds / 86400)).year
  if year < CivilDate.minYear ∨ CivilDate.maxYear < year then throw .impossible
  pure instant

/-- Read `year-month-dayThour:minute:second`, taken as universal time. -/
def readLocalTime (cs : List Char) : Except TimeError Instant := do
  let (date, cs) ← looseDate id cs
  let (_, cs) ← char 'T' cs
  let ((hour, minute, second), cs) ← looseClock id cs
  finish cs
  let date ← existing date
  pure (ofLocal ⟨date, hour, minute, second, 0, by decide⟩ 0)

/-- Read `year-month-day`, taken as midnight in universal time. -/
def readDate (cs : List Char) : Except TimeError Instant := do
  let (date, cs) ← looseDate id cs
  finish cs
  let date ← existing date
  pure (ofDate date)

/-- Read an RFC 3339 timestamp, if the text is one. -/
def timestamp? (s : String) : Option Instant :=
  (readTimestamp s.toList).toOption

end Instant

end Catalog
