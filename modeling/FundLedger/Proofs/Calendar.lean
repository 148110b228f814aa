import Mathlib.Tactic.IntervalCases
import FundLedger.Instant
/-!
# The calendar

The date of a day is one of the calendar, and the day is computed back from it.

* `exists_dayOfEra`, `exists_yearOfEra`: the year of a day among four hundred years.
* `exists_monthFromMarch`: the month of a day in a year that starts in March.
* `civilFromDays_spec`: a day is that of its date.
-/

namespace FundLedger

/-- A day of four hundred years is in one of their centuries, in one of its groups of four years, in one of those, and so
many days from the start of that year in March.  Only the last year of a group has a leap day, and the last group of a
century only in the last century. -/
theorem exists_dayOfEra {day : Int} (h : 0 ≤ day) (h' : day < 146097) : ∃ century group year dayOfYear : Int,
    day = 36524 * century + 1461 * group + 365 * year + dayOfYear ∧ (0 ≤ century ∧ century ≤ 3) ∧
      (0 ≤ group ∧ group ≤ 24) ∧ (0 ≤ year ∧ year ≤ 3) ∧ (0 ≤ dayOfYear ∧ dayOfYear ≤ 365) ∧
      (dayOfYear = 365 → year = 3 ∧ (group < 24 ∨ century = 3)) := by
  obtain ⟨century, hcentury⟩ : ∃ c, c = min (day / 36524) 3 := ⟨_, rfl⟩
  obtain ⟨group, hgroup⟩ : ∃ g, g = (day - 36524 * century) / 1461 := ⟨_, rfl⟩
  obtain ⟨year, hyear⟩ : ∃ y, y = min ((day - 36524 * century - 1461 * group) / 365) 3 := ⟨_, rfl⟩
  exact ⟨century, group, year, day - 36524 * century - 1461 * group - 365 * year, by omega⟩

/-- The year that is computed from a day of four hundred years. -/
theorem yearOfEra_eq {day century group year dayOfYear : Int}
    (hday : day = 36524 * century + 1461 * group + 365 * year + dayOfYear) (hcentury : 0 ≤ century ∧ century ≤ 3)
    (hgroup : 0 ≤ group ∧ group ≤ 24) (hyear : 0 ≤ year ∧ year ≤ 3) (hdayOfYear : 0 ≤ dayOfYear ∧ dayOfYear ≤ 365)
    (hleap : dayOfYear = 365 → year = 3 ∧ (group < 24 ∨ century = 3)) :
    (day - day / 1460 + day / 36524 - day / 146096) / 365 = 100 * century + 4 * group + year := by
  have hyears : day / 1460 = 25 * century + group + (24 * century + group + 365 * year + dayOfYear) / 1460 := by omega
  have hcenturies : day / 36524 = century + (1461 * group + 365 * year + dayOfYear) / 36524 := by omega
  -- only the very last day is counted as one of a fifth century
  have hlast : (1461 * group + 365 * year + dayOfYear) / 36524 = 0 ∨
      (century = 3 ∧ group = 24 ∧ year = 3 ∧ dayOfYear = 365 ∧
        (1461 * group + 365 * year + dayOfYear) / 36524 = 1) := by omega
  have hearly : (24 * century + group + 365 * year + dayOfYear) / 1460 = 0 ∨
      (24 * century + group + 365 * year + dayOfYear) / 1460 = 1 := by omega
  omega

theorem exists_yearOfEra {day : Int} (h : 0 ≤ day) (h' : day < 146097) : ∃ year dayOfYear : Int,
    (day - day / 1460 + day / 36524 - day / 146096) / 365 = year ∧
      day - (365 * year + year / 4 - year / 100) = dayOfYear ∧ (0 ≤ year ∧ year < 400) ∧
      (0 ≤ dayOfYear ∧ dayOfYear ≤ 365) ∧
      (dayOfYear = 365 → (year + 1) % 4 = 0 ∧ ((year + 1) % 100 ≠ 0 ∨ year = 399)) := by
  obtain ⟨century, group, year, dayOfYear, hday, hcentury, hgroup, hyear, hdayOfYear, hleap⟩ := exists_dayOfEra h h'
  refine ⟨_, dayOfYear, yearOfEra_eq hday hcentury hgroup hyear hdayOfYear hleap, ?_⟩
  clear h h'
  omega

/-- The number of the day and the month in a year that starts in March. -/
theorem exists_monthFromMarch {dayOfYear : Int} (h : 0 ≤ dayOfYear) (h' : dayOfYear ≤ 365) : ∃ month day : Nat,
    (5 * dayOfYear + 2) / 153 = month ∧ month ≤ 11 ∧ dayOfYear = (153 * (month : Int) + 2) / 5 + day - 1 ∧ 1 ≤ day := by
  refine ⟨((5 * dayOfYear + 2) / 153).toNat,
    (dayOfYear - (153 * ((5 * dayOfYear + 2) / 153) + 2) / 5 + 1).toNat, ?_⟩
  omega

/-- The date of a day, from the year and month that are counted from March. -/
theorem civilFromDays_eq {days era year dayOfYear : Int} {month day : Nat} (hera : (days + 719468).fdiv 146097 = era)
    (hyear : ((days + 719468 - era * 146097) - (days + 719468 - era * 146097) / 1460 +
      (days + 719468 - era * 146097) / 36524 - (days + 719468 - era * 146097) / 146096) / 365 = year)
    (hdayOfYear : (days + 719468 - era * 146097) - (365 * year + year / 4 - year / 100) = dayOfYear)
    (hmonth : (5 * dayOfYear + 2) / 153 = month) (hmonth' : month ≤ 11)
    (hday : dayOfYear = (153 * (month : Int) + 2) / 5 + day - 1) :
    civilFromDays days = (if month < 10 then year + era * 400 else year + era * 400 + 1,
      if month < 10 then month + 3 else month - 9, day) := by
  have hday' : (dayOfYear - (153 * (month : Int) + 2) / 5 + 1).toNat = day := by omega
  unfold civilFromDays
  simp only [hera, hyear, hdayOfYear, hmonth, hday']
  clear hera hyear hdayOfYear hmonth hday hday'
  by_cases hfront : month < 10
  · have hearly : (month : Int) < 10 := by omega
    have hmarch : ¬(month : Int) + 3 ≤ 2 := by omega
    have hnat : ((month : Int) + 3).toNat = month + 3 := by omega
    simp only [if_pos hfront, if_pos hearly, if_neg hmarch, hnat, Int.add_zero]
  · have hlate : ¬(month : Int) < 10 := by omega
    have hjanuary : (month : Int) - 9 ≤ 2 := by omega
    have hnat : ((month : Int) - 9).toNat = month - 9 := by omega
    simp only [if_neg hfront, if_neg hlate, if_pos hjanuary, hnat]

/-- The day of a date, whose year and month are given as they are counted from March. -/
theorem daysFromCivil_eq {era year : Int} (hyear : 0 ≤ year ∧ year < 400) {month : Nat} (hmonth : month ≤ 11) (day : Nat) :
    daysFromCivil (if month < 10 then year + era * 400 else year + era * 400 + 1)
        (if month < 10 then month + 3 else month - 9) day =
      era * 146097 + (year * 365 + year / 4 - year / 100 + ((153 * (month : Int) + 2) / 5 + day - 1)) - 719468 := by
  have hera : (year + era * 400).fdiv 400 = era := by
    rw [Int.fdiv_eq_ediv_of_nonneg _ (by decide)]
    omega
  have hyearOfEra : year + era * 400 - era * 400 = year := by omega
  unfold daysFromCivil
  by_cases hfront : month < 10
  · have hmarch : ¬month + 3 ≤ 2 := by omega
    have hback : ((month + 3 : Nat) : Int) - 3 = month := by omega
    simp only [if_pos hfront, if_neg hmarch, hera, hyearOfEra, hback]
  · have hjanuary : month - 9 ≤ 2 := by omega
    have hback : ((month - 9 : Nat) : Int) + 9 = month := by omega
    simp only [if_neg hfront, if_pos hjanuary, Int.add_sub_cancel, hera, hyearOfEra, hback]

/-- The days of the months, and the leap day, as they are counted from March. -/
theorem le_daysInMonth {era year dayOfYear : Int} {month day : Nat} (hend : dayOfYear ≤ 365)
    (hleap : dayOfYear = 365 → (year + 1) % 4 = 0 ∧ ((year + 1) % 100 ≠ 0 ∨ year = 399))
    (hmonth : (5 * dayOfYear + 2) / 153 = month) (hmonth' : month ≤ 11)
    (hday : dayOfYear = (153 * (month : Int) + 2) / 5 + day - 1) :
    day ≤ daysInMonth (if month < 10 then year + era * 400 else year + era * 400 + 1)
      (if month < 10 then month + 3 else month - 9) := by
  by_cases hfebruary : month = 11
  · subst hfebruary
    have hday' : (day : Int) = dayOfYear - 336 := by omega
    change day ≤ if isLeapYear (year + era * 400 + 1) then 29 else 28
    by_cases hlast : dayOfYear = 365
    · have hisLeap : isLeapYear (year + era * 400 + 1) = true := by
        obtain ⟨hfour, hcentury⟩ := hleap hlast
        simp only [isLeapYear, Bool.and_eq_true, Bool.or_eq_true, bne_iff_ne, beq_iff_eq]
        omega
      rw [if_pos hisLeap]
      omega
    · split <;> omega
  · clear hleap
    unfold daysInMonth
    interval_cases month <;> simp <;> omega

/-- A day is that of its date, which is one of the calendar. -/
theorem civilFromDays_spec (days : Int) : ∃ (year : Int) (month day : Nat), civilFromDays days = (year, month, day) ∧
    daysFromCivil year month day = days ∧ 1 ≤ month ∧ month ≤ 12 ∧ 1 ≤ day ∧ day ≤ daysInMonth year month := by
  obtain ⟨era, hera⟩ : ∃ era, (days + 719468).fdiv 146097 = era := ⟨_, rfl⟩
  have hdays := hera
  rw [Int.fdiv_eq_ediv_of_nonneg _ (by decide)] at hdays
  have hdayOfEra : 0 ≤ days + 719468 - era * 146097 := by omega
  have hdayOfEra' : days + 719468 - era * 146097 < 146097 := by omega
  obtain ⟨year, dayOfYear, hyear, hdayOfYear, hera', ⟨hstart, hend⟩, hleap⟩ := exists_yearOfEra hdayOfEra hdayOfEra'
  obtain ⟨month, day, hmonth, hmonth', hday, hday'⟩ := exists_monthFromMarch hstart hend
  refine ⟨_, _, day, civilFromDays_eq hera hyear hdayOfYear hmonth hmonth' hday, ?_, ?_, ?_, hday',
    le_daysInMonth hend hleap hmonth hmonth' hday⟩
  · rw [daysFromCivil_eq hera' hmonth', ← hday]
    clear hleap hday hmonth hyear hdays hera
    omega
  · split <;> omega
  · split <;> omega

end FundLedger
