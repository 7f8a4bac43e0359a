import Catalog.Time.Calendar

/-!
# Dates of day numbers

Every day number is that of a date, and the date exists: its month is one of twelve, and its day is
one of the month's. The years are taken apart as the calendar does, into cycles of 400 years that
start in March, centuries and years, so that the day that leap years add is the last of its year.

## Key results

- `CivilDate.dayNumber_ofDayNumber`: the date of a day number has that number
- `CivilDate.isValid_ofDayNumber`: the date exists, if its year is covered
-/

namespace Catalog.CivilDate

section

variable {dayOfEra yearOfEra : Int}

/-- The years of a cycle are those of its centuries; the leap day of the fourth century is the last
day of all. -/
private theorem century (hlow : 0 ≤ dayOfEra) (hhigh : dayOfEra < 146097)
    (hyear : yearOfEra =
      (dayOfEra - dayOfEra / 1460 + dayOfEra / 36524 - dayOfEra / 146096) / 365) :
    (yearOfEra / 100 = dayOfEra / 36524 ∧ dayOfEra / 146096 = 0 ∧
      (dayOfEra / 36524 = 0 ∨ dayOfEra / 36524 = 1 ∨ dayOfEra / 36524 = 2 ∨
        dayOfEra / 36524 = 3)) ∨ (dayOfEra = 146096 ∧ yearOfEra = 399) := by
  by_cases hlast : dayOfEra = 146096
  · subst hlast
    exact .inr ⟨rfl, by rw [hyear]; decide⟩
  · have hera : dayOfEra / 146096 = 0 := by omega
    have hcenturies : dayOfEra / 36524 = 0 ∨ dayOfEra / 36524 = 1 ∨ dayOfEra / 36524 = 2 ∨
        dayOfEra / 36524 = 3 := by omega
    refine .inl ⟨?_, hera, hcenturies⟩
    rw [hera] at hyear
    -- within one century the years are linear in the days
    rcases hcenturies with h | h | h | h <;> rw [h] at hyear ⊢ <;> omega

/-- Day numbers within a year start at zero, and only leap years reach 365. -/
private theorem dayOfYear_spec (hlow : 0 ≤ dayOfEra) (hhigh : dayOfEra < 146097)
    (hyear : yearOfEra =
      (dayOfEra - dayOfEra / 1460 + dayOfEra / 36524 - dayOfEra / 146096) / 365) :
    0 ≤ yearOfEra ∧ yearOfEra < 400 ∧
      0 ≤ dayOfEra - (365 * yearOfEra + yearOfEra / 4 - yearOfEra / 100) ∧
      dayOfEra - (365 * yearOfEra + yearOfEra / 4 - yearOfEra / 100) ≤ 365 ∧
      (dayOfEra - (365 * yearOfEra + yearOfEra / 4 - yearOfEra / 100) = 365 →
        (yearOfEra + 1) % 4 = 0 ∧ ((yearOfEra + 1) % 100 ≠ 0 ∨ (yearOfEra + 1) % 400 = 0)) := by
  rcases century hlow hhigh hyear with ⟨h, hera, hcenturies⟩ | ⟨rfl, rfl⟩
  · rw [hera] at hyear
    have hrange : 0 ≤ yearOfEra ∧ yearOfEra < 400 := by omega
    refine ⟨hrange.1, hrange.2, ?_⟩
    have hquarter : yearOfEra % 4 = 0 ∨ yearOfEra % 4 = 1 ∨ yearOfEra % 4 = 2 ∨
        yearOfEra % 4 = 3 := by omega
    refine ⟨?_, ?_, fun hlast => ⟨?_, .inl ?_⟩⟩
    · rcases hcenturies with h' | h' | h' | h' <;> rw [h'] at hyear h <;> omega
    · rcases hcenturies with h' | h' | h' | h' <;> rw [h'] at hyear h <;> omega
    · rcases hcenturies with h' | h' | h' | h' <;> rw [h'] at hyear h <;>
        rcases hquarter with h'' | h'' | h'' | h'' <;> omega
    · rcases hcenturies with h' | h' | h' | h' <;> omega
  · decide

end

/-- Months from March on have 31, 30, 31, 30, 31 days, the same again, and 31 and the rest. -/
private theorem month_spec {year dayOfYear : Int} (hlow : 0 ≤ dayOfYear) (hhigh : dayOfYear ≤ 365)
    (hleap : dayOfYear = 365 → isLeapYear (year + 1) = true) {monthFromMarch : Int}
    (hmonth : monthFromMarch = (5 * dayOfYear + 2) / 153) {month day : Nat}
    (hm : month = (if monthFromMarch < 10 then monthFromMarch + 3 else monthFromMarch - 9).toNat)
    (hd : day = (dayOfYear - (153 * monthFromMarch + 2) / 5 + 1).toNat) :
    1 ≤ month ∧ month ≤ 12 ∧ 1 ≤ day ∧
      day ≤ daysInMonth (if month ≤ 2 then year + 1 else year) month ∧
      (if month ≤ 2 then (month : Int) + 9 else month - 3) = monthFromMarch ∧
      (153 * monthFromMarch + 2) / 5 + day - 1 = dayOfYear := by
  have hcases : monthFromMarch = 0 ∨ monthFromMarch = 1 ∨ monthFromMarch = 2 ∨
      monthFromMarch = 3 ∨ monthFromMarch = 4 ∨ monthFromMarch = 5 ∨ monthFromMarch = 6 ∨
      monthFromMarch = 7 ∨ monthFromMarch = 8 ∨ monthFromMarch = 9 ∨ monthFromMarch = 10 ∨
      monthFromMarch = 11 := by omega
  rcases hcases with h | h | h | h | h | h | h | h | h | h | h | h
  case inr.inr.inr.inr.inr.inr.inr.inr.inr.inr.inr =>
    -- February
    rw [h] at hm hd hmonth ⊢
    obtain rfl : month = 2 := hm
    have hdays : daysInMonth (year + 1) 2 = if isLeapYear (year + 1) then 29 else 28 := rfl
    rw [if_pos (by decide), hdays]
    by_cases hlast : dayOfYear = 365
    · rw [if_pos (hleap hlast)]
      omega
    · split <;> omega
  all_goals
    rw [h] at hm hd hmonth ⊢
    subst hm
    simp [daysInMonth]
    omega

/-- What a day number is taken apart into makes up the date of that number. -/
private theorem ofDayNumber_spec (days : Int) :
    1 ≤ (ofDayNumber days).month ∧ (ofDayNumber days).month ≤ 12 ∧ 1 ≤ (ofDayNumber days).day ∧
      (ofDayNumber days).day ≤ daysInMonth (ofDayNumber days).year (ofDayNumber days).month ∧
      (ofDayNumber days).dayNumber = days := by
  unfold ofDayNumber
  simp only
  generalize hera : (days + 719468) / 146097 = era
  generalize hdayOfEra : (days + 719468) % 146097 = dayOfEra
  generalize hyear : (dayOfEra - dayOfEra / 1460 + dayOfEra / 36524 - dayOfEra / 146096) / 365 =
    yearOfEra
  generalize hdayOfYear : dayOfEra - (365 * yearOfEra + yearOfEra / 4 - yearOfEra / 100) =
    dayOfYear
  generalize hmonth : (5 * dayOfYear + 2) / 153 = monthFromMarch
  generalize hm :
    (if monthFromMarch < 10 then monthFromMarch + 3 else monthFromMarch - 9).toNat = month
  generalize hd : (dayOfYear - (153 * monthFromMarch + 2) / 5 + 1).toNat = day
  have hrange : 0 ≤ dayOfEra ∧ dayOfEra < 146097 := by omega
  obtain ⟨hylow, hyhigh, hlow, hhigh, hlast⟩ := dayOfYear_spec hrange.1 hrange.2 hyear.symm
  rw [hdayOfYear] at hlow hhigh hlast
  have hleap : dayOfYear = 365 → isLeapYear (yearOfEra + era * 400 + 1) = true := by
    intro h
    obtain ⟨hfour, hcentury⟩ := hlast h
    simp only [isLeapYear, Bool.and_eq_true, Bool.or_eq_true, beq_iff_eq, bne_iff_ne]
    omega
  obtain ⟨hm1, hm12, hd1, hdmax, hmback, hdback⟩ :=
    month_spec hlow hhigh hleap hmonth.symm hm.symm hd.symm
  refine ⟨hm1, hm12, hd1, hdmax, ?_⟩
  -- the year that starts in March is the one taken out of the cycle
  have hmarch : (if month ≤ 2 then (if month ≤ 2 then yearOfEra + era * 400 + 1
      else yearOfEra + era * 400) - 1 else (if month ≤ 2 then yearOfEra + era * 400 + 1
      else yearOfEra + era * 400)) = yearOfEra + era * 400 := by
    split <;> omega
  simp only [dayNumber, hmarch, hmback, hdback]
  have hcycle : (yearOfEra + era * 400) / 400 = era ∧
      (yearOfEra + era * 400) % 400 = yearOfEra := by
    omega
  rw [hcycle.1, hcycle.2]
  omega

theorem dayNumber_ofDayNumber (days : Int) : (ofDayNumber days).dayNumber = days :=
  (ofDayNumber_spec days).2.2.2.2

theorem isValid_ofDayNumber {days : Int} (hmin : minYear ≤ (ofDayNumber days).year)
    (hmax : (ofDayNumber days).year ≤ maxYear) : (ofDayNumber days).isValid = true := by
  obtain ⟨hm1, hm12, hd1, hdmax, -⟩ := ofDayNumber_spec days
  simp only [isValid, Bool.and_eq_true, decide_eq_true_eq]
  exact ⟨⟨⟨⟨⟨hmin, hmax⟩, hm1⟩, hm12⟩, hd1⟩, hdmax⟩

/-- Dates that exist have a month of the year and a day that some month has. -/
theorem bounds_of_isValid {d : CivilDate} (h : d.isValid = true) :
    (1 ≤ d.month ∧ d.month ≤ 12) ∧ 1 ≤ d.day ∧ d.day ≤ 31 := by
  have hmonth : daysInMonth d.year d.month ≤ 31 := by
    unfold daysInMonth
    split
    · split <;> omega
    all_goals omega
  simp only [isValid, Bool.and_eq_true, decide_eq_true_eq] at h
  omega

end Catalog.CivilDate
