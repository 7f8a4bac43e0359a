import Catalog.Numeral
import Catalog.Time.Calendar

/-!
# Instants

A point of time as seconds since 1970 and nanoseconds. A leap second belongs to the second before
it, with nanoseconds from one thousand million on.
-/

namespace Catalog

/-- A point of time. -/
structure Instant where
  /-- Seconds since 1970-01-01 in universal time. -/
  seconds : Int
  /-- Nanoseconds within the second; at least `10 ^ 9` inside a leap second. -/
  nanos : Nat
  /-- A leap second is not longer than another one. -/
  nanos_lt : nanos < 2000000000
deriving DecidableEq, Repr

/-- The start of a second. -/
def Instant.ofSeconds (seconds : Int) : Instant := ⟨seconds, 0, by decide⟩

instance : Inhabited Instant := ⟨.ofSeconds 0⟩

/-- A date with a time of day, before its offset from universal time is applied. -/
structure LocalTime where
  /-- The date. -/
  date : CivilDate
  /-- Hour, below 24. -/
  hour : Nat
  /-- Minute, below 60. -/
  minute : Nat
  /-- Second, up to 60 for a leap second. -/
  second : Nat
  /-- Nanoseconds. -/
  nanos : Nat
  /-- They stay within the second. -/
  nanos_lt : nanos < 1000000000
deriving DecidableEq, Repr

namespace Instant

/-- The order of time. -/
def cmp (a b : Instant) : Ordering :=
  (compare a.seconds b.seconds).then (compare a.nanos b.nanos)

/-- The instant of a local time that runs `offset` seconds ahead of universal time. -/
def ofLocal (t : LocalTime) (offset : Int) : Instant :=
  let second := min t.second 59
  { seconds := t.date.dayNumber * 86400 + (t.hour * 3600 + t.minute * 60 + second : Nat) - offset
    nanos := if t.second = 60 then t.nanos + 1000000000 else t.nanos
    nanos_lt := by have := t.nanos_lt; split <;> omega }

/-- Midnight of a date in universal time. -/
def ofDate (d : CivilDate) : Instant :=
  ofSeconds (d.dayNumber * 86400)

/-- The years from 0 to 9999 have four digits; others carry their sign. -/
def yearText (year : Int) : List Char :=
  if 0 ≤ year ∧ year ≤ 9999 then Numeral.padded 4 year.toNat
  else (if year < 0 then '-' else '+') :: Numeral.padded 4 year.natAbs

/-- A fraction of a second with as many groups of three digits as it needs. -/
def fractionText (nanos : Nat) : List Char :=
  if nanos = 0 then []
  else if nanos % 1000000 = 0 then '.' :: Numeral.padded 3 (nanos / 1000000)
  else if nanos % 1000 = 0 then '.' :: Numeral.padded 6 (nanos / 1000)
  else '.' :: Numeral.padded 9 nanos

/-- The timestamp of an instant in universal time. -/
def render (t : Instant) : String :=
  let date := CivilDate.ofDayNumber (t.seconds / 86400)
  let time := (t.seconds % 86400).toNat
  let leap := 1000000000 ≤ t.nanos
  let second := if leap then time % 60 + 1 else time % 60
  let nanos := if leap then t.nanos - 1000000000 else t.nanos
  String.ofList (yearText date.year ++ '-' :: Numeral.padded 2 date.month ++
    '-' :: Numeral.padded 2 date.day ++ 'T' :: Numeral.padded 2 (time / 3600) ++
    ':' :: Numeral.padded 2 (time / 60 % 60) ++ ':' :: Numeral.padded 2 second ++
    fractionText nanos ++ ['Z'])

end Instant

end Catalog
