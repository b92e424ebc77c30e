import Mathlib.Algebra.Order.Ring.Int
import Mathlib.Data.Prod.Lex

namespace Wire.Calendar

/-!
# The proleptic Gregorian calendar

Dates of any integer year, years before 1 included, and the days they are counted by.

* `Date` — a date that exists; `Date.next`, `Date.prev` — the day after and the day before;
* `Date.dayNumber` — the days since 0000-01-01, by years, months and days;
* `Date.dayNumber_next` — a day is one more than the day before;
* `Date.dayNumber_lt`, `Date.dayNumber_injective`, `Date.dayNumber_surjective` — so that dates are
  the integers, in order.
-/

/-! ### Years and months -/

/-- The Gregorian rule for leap years. -/
def IsLeap (year : ℤ) : Prop := (4 ∣ year ∧ ¬ 100 ∣ year) ∨ 400 ∣ year

instance (year : ℤ) : Decidable (IsLeap year) := inferInstanceAs (Decidable (_ ∨ _))

/-- The days of a year. -/
def yearLength (year : ℤ) : ℕ := if IsLeap year then 366 else 365

/-- The days of a month. -/
def monthLength (year : ℤ) (month : ℕ) : ℕ :=
  if month = 2 then if IsLeap year then 29 else 28
  else if month ∈ [4, 6, 9, 11] then 30 else 31

/-- Days from 0000-01-01 to the first day of `year`, a leap day in every fourth year save for the
    centuries that 400 does not divide. -/
def daysBeforeYear (year : ℤ) : ℤ :=
  365 * year + (year + 3) / 4 - (year + 99) / 100 + (year + 399) / 400

/-- Days from the first day of `year` to the end of its `month`-th month. -/
def daysThroughMonth (year : ℤ) : ℕ → ℕ
  | 0 => 0
  | month + 1 => daysThroughMonth year month + monthLength year (month + 1)

/-- No month is empty. -/
theorem monthLength_pos (year : ℤ) (month : ℕ) : 0 < monthLength year month := by
  unfold monthLength
  split <;> split <;> omega

/-- A year is as long as its length. -/
theorem daysBeforeYear_succ (year : ℤ) :
    daysBeforeYear (year + 1) = daysBeforeYear year + yearLength year := by
  unfold daysBeforeYear yearLength
  by_cases h : IsLeap year
  · rw [if_pos h]
    unfold IsLeap at h
    omega
  · rw [if_neg h]
    unfold IsLeap at h
    omega

/-- Later years have more days before them. -/
theorem daysBeforeYear_mono {year year' : ℤ} (h : year ≤ year') :
    daysBeforeYear year ≤ daysBeforeYear year' := by
  unfold daysBeforeYear
  omega

/-- The months of a year fill it. -/
theorem daysThroughMonth_december (year : ℤ) : daysThroughMonth year 12 = yearLength year := by
  by_cases h : IsLeap year <;> simp [daysThroughMonth, monthLength, yearLength, h]

/-- Later months end later in their year. -/
theorem daysThroughMonth_mono (year : ℤ) {month month' : ℕ} (h : month ≤ month') :
    daysThroughMonth year month ≤ daysThroughMonth year month' := by
  induction month', h using Nat.le_induction with
  | base => exact Nat.le_refl _
  | succ month' _ ih => exact ih.trans (Nat.le_add_right _ _)

/-- The days up to a month that is not the first. -/
theorem daysThroughMonth_pred (year : ℤ) {month : ℕ} (h : 1 ≤ month) :
    daysThroughMonth year month = daysThroughMonth year (month - 1) + monthLength year month := by
  obtain ⟨month, rfl⟩ := Nat.exists_eq_add_of_le' h
  rfl

/-! ### Dates -/

/-- A date that exists. -/
@[ext] structure Date where
  year : ℤ
  month : ℕ
  day : ℕ
  month_valid : 1 ≤ month ∧ month ≤ 12
  day_valid : 1 ≤ day ∧ day ≤ monthLength year month

namespace Date

/-- The day after. -/
def next (date : Date) : Date :=
  if hday : date.day < monthLength date.year date.month then
    ⟨date.year, date.month, date.day + 1, date.month_valid, by omega⟩
  else if hmonth : date.month < 12 then
    ⟨date.year, date.month + 1, 1, by omega, by simp [Nat.succ_le_of_lt (monthLength_pos _ _)]⟩
  else
    ⟨date.year + 1, 1, 1, by omega, by simp [Nat.succ_le_of_lt (monthLength_pos _ _)]⟩

/-- The day before. -/
def prev (date : Date) : Date :=
  if hday : 1 < date.day then
    ⟨date.year, date.month, date.day - 1, date.month_valid, by have := date.day_valid; omega⟩
  else if hmonth : 1 < date.month then
    ⟨date.year, date.month - 1, monthLength date.year (date.month - 1),
      by have := date.month_valid; omega, Nat.succ_le_of_lt (monthLength_pos _ _), Nat.le_refl _⟩
  else
    ⟨date.year - 1, 12, monthLength (date.year - 1) 12, by omega,
      Nat.succ_le_of_lt (monthLength_pos _ _), Nat.le_refl _⟩

/-- The day after the day before is the day. -/
theorem next_prev (date : Date) : date.prev.next = date := by
  have hday := date.day_valid
  have hmonth := date.month_valid
  unfold prev
  split
  · -- inside a month
    unfold next
    rw [dif_pos (by dsimp only; omega)]
    ext <;> dsimp only
    omega
  · split
    · -- the first day of a month is after the last of the month before
      unfold next
      rw [dif_neg (by dsimp only; omega), dif_pos (by dsimp only; omega)]
      ext <;> dsimp only <;> omega
    · -- and the first of January is after the last of December
      unfold next
      rw [dif_neg (by dsimp only; omega), dif_neg (by dsimp only; omega)]
      ext <;> dsimp only <;> omega

/-! ### The order of the calendar -/

/-- What dates are compared by: the year, then the month, then the day. -/
def key (date : Date) : ℤ ×ₗ ℕ ×ₗ ℕ := toLex (date.year, toLex (date.month, date.day))

/-- A date is told by its year, month and day. -/
theorem key_injective : Function.Injective key := by
  intro date date' h
  simp only [key, EmbeddingLike.apply_eq_iff_eq, Prod.mk.injEq] at h
  obtain ⟨hyear, hmonth, hday⟩ := h
  exact Date.ext hyear hmonth hday

instance : LinearOrder Date := LinearOrder.lift' key key_injective

/-- Dates are ordered by year, then month, then day. -/
theorem lt_iff {date date' : Date} :
    date < date' ↔ date.year < date'.year ∨ date.year = date'.year ∧
      (date.month < date'.month ∨ date.month = date'.month ∧ date.day < date'.day) := by
  have hkey : date < date' ↔ date.key < date'.key := Iff.rfl
  rw [hkey, key, key, Prod.Lex.toLex_lt_toLex, Prod.Lex.toLex_lt_toLex]

/-! ### Counting days -/

/-- Days from 0000-01-01. -/
def dayNumber (date : Date) : ℤ :=
  daysBeforeYear date.year + daysThroughMonth date.year (date.month - 1) + (date.day - 1)

/-- A date is in its month. -/
theorem day_le_daysThroughMonth (date : Date) :
    daysThroughMonth date.year (date.month - 1) + date.day ≤
      daysThroughMonth date.year date.month := by
  rw [daysThroughMonth_pred date.year date.month_valid.1]
  exact Nat.add_le_add_left date.day_valid.2 _

/-- A date is in its year. -/
theorem day_le_yearLength (date : Date) :
    daysThroughMonth date.year (date.month - 1) + date.day ≤ yearLength date.year := by
  rw [← daysThroughMonth_december]
  exact date.day_le_daysThroughMonth.trans (daysThroughMonth_mono _ date.month_valid.2)

/-- The next day has the next number. -/
theorem dayNumber_next (date : Date) : date.next.dayNumber = date.dayNumber + 1 := by
  have hday := date.day_valid
  have hmonth := date.month_valid
  unfold next
  split
  · simp only [dayNumber]
    push_cast
    omega
  · -- the last day of its month
    rename_i hlast
    have hlast : date.day = monthLength date.year date.month := by omega
    have hthrough := daysThroughMonth_pred date.year hmonth.1
    split
    · simp only [dayNumber, Nat.add_sub_cancel]
      omega
    · rename_i hdecember
      have hdecember : date.month = 12 := by omega
      have hyear := daysThroughMonth_december date.year
      have hjanuary : daysThroughMonth (date.year + 1) (1 - 1) = 0 := rfl
      simp only [dayNumber, daysBeforeYear_succ]
      rw [hdecember] at hthrough hlast ⊢
      omega

/-- A later date has a larger number. -/
theorem dayNumber_lt {date date' : Date} (h : date < date') : date.dayNumber < date'.dayNumber := by
  have hday := date'.day_valid
  have hbefore := day_le_yearLength date
  unfold dayNumber
  rcases lt_iff.mp h with hyear | ⟨hyear, hmonth | ⟨hmonth, hday'⟩⟩
  · -- an earlier year ends before a later one starts
    have hyears := daysBeforeYear_mono (Int.add_one_le_iff.mpr hyear)
    rw [daysBeforeYear_succ] at hyears
    omega
  · -- so does an earlier month
    have hmonths := daysThroughMonth_mono date.year (Nat.le_sub_one_of_lt hmonth)
    have hthrough := day_le_daysThroughMonth date
    rw [← hyear]
    omega
  · rw [← hyear, ← hmonth]
    omega

/-- No two dates share a number. -/
theorem dayNumber_injective : Function.Injective dayNumber := by
  intro date date' h
  rcases lt_trichotomy date date' with hlt | heq | hgt
  · exact absurd h (dayNumber_lt hlt).ne
  · exact heq
  · exact absurd h (dayNumber_lt hgt).ne'

/-- Every integer is the number of a day: going on from 0000-01-01, and going back. -/
theorem dayNumber_surjective : Function.Surjective dayNumber := by
  intro n
  induction n using Int.induction_on with
  | zero => exact ⟨⟨0, 1, 1, by omega, by simp [monthLength]⟩, rfl⟩
  | succ n ih =>
    obtain ⟨date, hdate⟩ := ih
    exact ⟨date.next, by rw [dayNumber_next, hdate]⟩
  | pred n ih =>
    obtain ⟨date, hdate⟩ := ih
    have hprev := dayNumber_next date.prev
    rw [next_prev, hdate] at hprev
    exact ⟨date.prev, by omega⟩

end Date

end Wire.Calendar
