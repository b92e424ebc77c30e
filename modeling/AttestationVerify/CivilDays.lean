import AttestationVerify.Time
import AttestationVerify.Wire.Calendar

namespace AttestationVerify

open Wire Wire.Rfc3339

/-!
# The day count of `time.rs`

`days_from_civil` on the whole calendar, years before 0 included.  It starts the year in March and
works in blocks of 400 years; the calendar counts from January, year by year.

* `civilDays_eq` — the two counts differ by the epoch;
* `daysFromCivil_spec` — so the source's is a bijection onto the integers, in calendar order.
-/

/-- `days_from_civil` of a date that exists. -/
def civilDays (date : Calendar.Date) : ℤ := daysFromCivil date.year date.month date.day

/-- The source counts from 1970-01-01, which is day 719528. -/
theorem civilDays_eq (date : Calendar.Date) : civilDays date = date.dayNumber - 719528 :=
  daysFromCivil_eq date.month_valid

/-- The day after has the next number. -/
theorem civilDays_next (date : Calendar.Date) : civilDays date.next = civilDays date + 1 := by
  rw [civilDays_eq, civilDays_eq, Calendar.Date.dayNumber_next]
  omega

/-- **`days_from_civil` counts days exactly.**  Its calendar is the Gregorian one, 1970-01-01 is day
    0, the day after any date counts one more, and dates in their order are the integers in
    theirs. -/
theorem daysFromCivil_spec :
    (∀ year month : ℕ, 1 ≤ month ∧ month ≤ 12 →
      (isLeapYear year = true ↔ Calendar.IsLeap year) ∧
        daysInMonth year month = Calendar.monthLength year month) ∧
    daysFromCivil 1970 1 1 = 0 ∧
    (∀ date : Calendar.Date, daysFromCivil date.next.year date.next.month date.next.day =
      daysFromCivil date.year date.month date.day + 1) ∧
    (∀ date date' : Calendar.Date, date < date' → civilDays date < civilDays date') ∧
    Function.Bijective civilDays := by
  refine ⟨?_, by decide, civilDays_next, ?_, ?_, ?_⟩
  · intro year month hmonth
    exact ⟨isLeapYear_iff.trans isLeap_cast.symm,
      (daysInMonth_eq hmonth).trans (monthLength_cast year month).symm⟩
  · intro date date' h
    have hday := Calendar.Date.dayNumber_lt h
    rw [civilDays_eq, civilDays_eq]
    omega
  · intro date date' h
    rw [civilDays_eq, civilDays_eq] at h
    exact Calendar.Date.dayNumber_injective (by omega)
  · intro n
    obtain ⟨date, hdate⟩ := Calendar.Date.dayNumber_surjective (n + 719528)
    exact ⟨date, by rw [civilDays_eq, hdate]; omega⟩

end AttestationVerify
