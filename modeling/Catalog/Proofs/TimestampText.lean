import Catalog.Proofs.CalendarDays
import Catalog.Proofs.DateText

/-!
# Timestamps that are written

An instant is written as a timestamp in universal time. The text is read back as the instant if its
year has four digits; the text of any other year is no timestamp, for it starts with a sign. A leap
second is read back if it ends a minute; elsewhere it is written as the second that follows.

## Key results

- `Instant.timestamp_render`: what is written denotes the instant
- `Instant.timestamp?_render`: what is read back
-/

namespace Catalog

open Time

/-! ## Padded numbers -/

namespace Numeral

theorem ofDigits_replicate_append (k : Nat) (ds : List Char) :
    ofDigits (List.replicate k '0' ++ ds) = ofDigits ds := by
  induction k with
  | zero => rfl
  | succ k ih =>
    rw [List.replicate_succ, List.cons_append, ← ih]
    rfl

/-- A number that is not too long is padded to just the width. -/
theorem numberText_padded {width n : Nat} (hwidth : width ≠ 0) (h : n < 10 ^ width) :
    NumberText width width (padded width n) n := by
  have hdigits : ∀ c ∈ Nat.toDigits 10 n, Text.isAsciiDigit c = true :=
    fun c hc => isAsciiDigit_of_mem_toDigits hc
  have hlength : (Nat.toDigits 10 n).length ≤ width := by
    rw [Nat.length_toDigits_le_iff (by decide) (Nat.pos_of_ne_zero hwidth)]
    exact h
  have hall : ∀ c ∈ padded width n, Text.isAsciiDigit c = true := by
    intro c hc
    rcases List.mem_append.1 hc with hc | hc
    · rw [List.eq_of_mem_replicate hc]
      decide
    · exact hdigits c hc
  have hwidth : (padded width n).length = width := by
    rw [padded, List.length_append, List.length_replicate]
    omega
  refine ⟨⟨hall, by omega, by omega⟩, ?_⟩
  rw [padded, ofDigits_replicate_append, ofDigits_eq hdigits, Nat.ofDigitChars_ten_toDigits]

end Numeral

open Numeral

namespace Instant

/-! ## Parts of a timestamp -/

theorem fraction_padded {width n : Nat} (hwidth : width ≠ 0) (hnine : width ≤ 9)
    (h : n < 10 ^ width) : Fraction ('.' :: padded width n) (n * 10 ^ (9 - width)) := by
  obtain ⟨hnumber, hvalue⟩ := numberText_padded hwidth h
  have hlength : (padded width n).length = width :=
    Nat.le_antisymm hnumber.le_most hnumber.least_le
  have hne : padded width n ≠ [] := by
    intro hnil
    rw [hnil] at hlength
    exact hwidth hlength.symm
  have hfraction := Fraction.some hne hnumber.digits
  rwa [List.take_of_length_le (by omega), ← hvalue, hlength] at hfraction

/-- Groups of three digits, as many as are needed, write the nanoseconds. -/
theorem fraction_fractionText {nanos : Nat} (h : nanos < 1000000000) :
    Fraction (fractionText nanos) nanos := by
  unfold fractionText
  split
  · next hzero =>
    rw [hzero]
    exact .none
  split
  · next hmillis =>
    have hfraction := @fraction_padded 3 (nanos / 1000000) (by decide) (by decide) (by omega)
    rwa [show nanos / 1000000 * 10 ^ (9 - 3) = nanos by omega] at hfraction
  split
  · next hmicros =>
    have hfraction := @fraction_padded 6 (nanos / 1000) (by decide) (by decide) (by omega)
    rwa [show nanos / 1000 * 10 ^ (9 - 6) = nanos by omega] at hfraction
  · have hfraction := @fraction_padded 9 nanos (by decide) (by decide) (by omega)
    rwa [show nanos * 10 ^ (9 - 9) = nanos by omega] at hfraction

/-- The year of an instant in universal time. -/
def year (t : Instant) : Int :=
  (CivilDate.ofDayNumber (t.seconds / 86400)).year

/-- A year of four digits. -/
def HasFourDigitYear (t : Instant) : Prop :=
  0 ≤ t.year ∧ t.year ≤ 9999

instance (t : Instant) : Decidable t.HasFourDigitYear :=
  inferInstanceAs (Decidable (_ ∧ _))

/-- The instant that the text of an instant denotes. A leap second that does not end a minute
becomes the second after it. -/
def asWritten (t : Instant) : Instant :=
  if 1000000000 ≤ t.nanos ∧ t.seconds % 60 ≠ 59 then
    ⟨t.seconds + 1, t.nanos - 1000000000, by have := t.nanos_lt; omega⟩
  else t

/-- The time in universal time that an instant is written as. -/
def writtenTime (t : Instant) : LocalTime :=
  let time := (t.seconds % 86400).toNat
  { date := .ofDayNumber (t.seconds / 86400)
    hour := time / 3600
    minute := time / 60 % 60
    second := if 1000000000 ≤ t.nanos then time % 60 + 1 else time % 60
    nanos := if 1000000000 ≤ t.nanos then t.nanos - 1000000000 else t.nanos
    nanos_lt := by have := t.nanos_lt; split <;> omega }

/-- What is written stands for the instant, but for leap seconds inside a minute. -/
theorem ofLocal_writtenTime (t : Instant) : ofLocal t.writtenTime 0 = t.asWritten := by
  obtain ⟨seconds, nanos, hnanos⟩ := t
  have hnumber := CivilDate.dayNumber_ofDayNumber (seconds / 86400)
  simp only [ofLocal, writtenTime, asWritten, hnumber]
  by_cases hleap : 1000000000 ≤ nanos
  · simp only [hleap, true_and, if_true]
    by_cases hend : seconds % 60 = 59
    · -- the sixtieth second of a minute counts as its last one
      have hsixty : (seconds % 86400).toNat % 60 + 1 = 60 := by omega
      simp only [hsixty, hend, if_true, ne_eq, not_true_eq_false, if_false, Instant.mk.injEq]
      omega
    · have hother : ¬ (seconds % 86400).toNat % 60 + 1 = 60 := by omega
      simp only [hother, hend, if_false, ne_eq, not_false_eq_true, if_true, Instant.mk.injEq,
        and_true]
      omega
  · have hother : ¬ (seconds % 86400).toNat % 60 = 60 := by omega
    simp only [hleap, hother, false_and, if_false, Instant.mk.injEq, and_true]
    omega

/-- The parts of a local time make a timestamp in universal time. -/
theorem timestamp_of_localTime {t : LocalTime} (hyear : 0 ≤ t.date.year ∧ t.date.year ≤ 9999)
    (hvalid : t.date.isValid = true) (hhour : t.hour ≤ 23) (hminute : t.minute ≤ 59)
    (hsecond : t.second ≤ 60) :
    Timestamp (padded 4 t.date.year.toNat ++ '-' :: (padded 2 t.date.month ++
      '-' :: padded 2 t.date.day) ++ 'T' :: (padded 2 t.hour ++ ':' :: (padded 2 t.minute ++
        ':' :: padded 2 t.second) ++ (fractionText t.nanos ++ ['Z']))) (ofLocal t 0) := by
  obtain ⟨hm, hd⟩ := CivilDate.bounds_of_isValid hvalid
  have hdate : StrictDate (padded 4 t.date.year.toNat ++ '-' :: (padded 2 t.date.month ++
      '-' :: padded 2 t.date.day)) t.date := by
    have hy := @numberText_padded 4 t.date.year.toNat (by decide) (by omega)
    have hfour : StrictYear (padded 4 t.date.year.toNat) t.date.year := ⟨hy.1, by
      rw [← hy.2]
      omega⟩
    exact .mk hfour (numberText_padded (by decide) (by omega))
      (numberText_padded (by decide) (by omega)) hm hd
  have hclock : StrictClock (padded 2 t.hour ++ ':' :: (padded 2 t.minute ++
      ':' :: padded 2 t.second)) (t.hour, t.minute, t.second) :=
    .mk (numberText_padded (by decide) (by omega)) (numberText_padded (by decide) (by omega))
      (numberText_padded (by decide) (by omega)) (by omega) (by omega) hsecond
  exact .mk hdate hvalid (.inl rfl) hclock (fraction_fractionText t.nanos_lt) (.utc (.inl rfl))

/-- An instant of a four-digit year is written as a timestamp that denotes it. -/
theorem timestamp_render {t : Instant} (hyear : t.HasFourDigitYear) :
    Timestamp t.render.toList t.asWritten := by
  rw [← ofLocal_writtenTime]
  unfold HasFourDigitYear year at hyear
  have hvalid : (CivilDate.ofDayNumber (t.seconds / 86400)).isValid = true :=
    CivilDate.isValid_ofDayNumber (Int.le_trans (by decide) hyear.1)
      (Int.le_trans hyear.2 (by decide))
  have hsecond : t.writtenTime.second ≤ 60 := by
    unfold writtenTime
    simp only
    split <;> omega
  have htext := timestamp_of_localTime (t := t.writtenTime) hyear hvalid
    (by simp only [writtenTime]; omega) (by simp only [writtenTime]; omega) hsecond
  simpa [render, yearText, if_pos hyear, writtenTime] using htext

/-! ## What is read back -/

/-- A timestamp starts with a digit. -/
theorem Timestamp.head_isDigit {cs : List Char} {t : Instant} (h : Timestamp cs t) :
    ∀ c ∈ cs.head?, Text.isAsciiDigit c = true := by
  cases h with
  | @mk date clock fraction zone d hour minute second nanos sep offset hdate hvalid hsep hclock
      hfraction hzone =>
    cases hdate with
    | @mk year month day y m n hyear hmonth hday hm hn =>
      intro c hc
      cases year with
      | nil => exact absurd hyear.1.least_le (by decide)
      | cons d ds =>
        cases hc
        exact hyear.1.digits c List.mem_cons_self

/-- The text of a year without four digits starts with its sign. -/
theorem head?_render {t : Instant} (hyear : ¬ t.HasFourDigitYear) :
    t.render.toList.head? = some (if t.year < 0 then '-' else '+') := by
  unfold HasFourDigitYear year at hyear
  simp only [render, String.toList_ofList, yearText, if_neg hyear]
  rfl

theorem timestamp?_eq_some_iff {s : String} {t : Instant} :
    timestamp? s = some t ↔ Timestamp s.toList t := by
  rw [timestamp?, toOption_eq_some_iff, readTimestamp_eq_ok_iff]

/-- The text of an instant is read back exactly if its year has four digits. -/
theorem timestamp?_render (t : Instant) :
    timestamp? t.render = if t.HasFourDigitYear then some t.asWritten else none := by
  split
  · next hyear => exact timestamp?_eq_some_iff.2 (timestamp_render hyear)
  · next hyear =>
    cases hread : timestamp? t.render with
    | none => rfl
    | some t' =>
      have hdigit := (timestamp?_eq_some_iff.1 hread).head_isDigit _ (head?_render hyear)
      split at hdigit <;> exact absurd hdigit (by decide)

theorem asWritten_eq_self_iff {t : Instant} :
    t.asWritten = t ↔ (1000000000 ≤ t.nanos → t.seconds % 60 = 59) := by
  obtain ⟨seconds, nanos, hnanos⟩ := t
  simp only [asWritten]
  split
  · simp only [Instant.mk.injEq]
    omega
  · simp only [true_iff]
    omega

end Instant

end Catalog
