import AttestationVerify.Wire.Calendar
import AttestationVerify.Wire.Text
import Mathlib.Data.Rat.Floor
import Mathlib.Tactic.Positivity
import Mathlib.Tactic.Linarith
import Mathlib.Tactic.FieldSimp

namespace Wire.Rfc3339

/-!
# RFC 3339 date-times

What a timestamp text means, independently of any parser.

* `yearLength`, `monthLength`, `dayNumber` — the proleptic Gregorian calendar, counted from
  0000-01-01 year by year and month by month;
* `Stamp` — the parts of a date-time, `Stamp.Valid` — the date exists and the parts are in range
  (no leap second), `Stamp.render` — its ASCII text;
* `Stamp.instant` — the exact instant in seconds since 1970-01-01T00:00:00Z, a rational;
* `Stamp.ceil_instant` — that instant rounded up, in integers.
-/

/-! ### The calendar -/

/-- The Gregorian rule, for the years that can be written. -/
def IsLeap (year : ℕ) : Prop := (4 ∣ year ∧ ¬ 100 ∣ year) ∨ 400 ∣ year

instance (year : ℕ) : Decidable (IsLeap year) := inferInstanceAs (Decidable (_ ∨ _))

/-- The days of a year. -/
def yearLength (year : ℕ) : ℕ := if IsLeap year then 366 else 365

/-- The days of a month. -/
def monthLength (year month : ℕ) : ℕ :=
  if month = 2 then if IsLeap year then 29 else 28
  else if month ∈ [4, 6, 9, 11] then 30 else 31

/-- Days from 0000-01-01 to the first day of `year`. -/
def daysBeforeYear : ℕ → ℕ
  | 0 => 0
  | year + 1 => daysBeforeYear year + yearLength year

/-- Days from the first day of `year` to the end of its `month`-th month. -/
def daysThroughMonth (year : ℕ) : ℕ → ℕ
  | 0 => 0
  | month + 1 => daysThroughMonth year month + monthLength year (month + 1)

/-- Days from 0000-01-01 to the given date. -/
def dayNumber (year month day : ℕ) : ℕ :=
  daysBeforeYear year + daysThroughMonth year (month - 1) + (day - 1)

/-! Its years are those of the calendar that has years before 0 too. -/

/-- The rule for leap years is the calendar's. -/
theorem isLeap_cast {year : ℕ} : Calendar.IsLeap year ↔ IsLeap year := by
  unfold Calendar.IsLeap IsLeap
  omega

/-- The length of a year is the calendar's. -/
theorem yearLength_cast (year : ℕ) : Calendar.yearLength year = yearLength year := by
  simp only [Calendar.yearLength, yearLength, isLeap_cast]

/-- The length of a month is the calendar's. -/
theorem monthLength_cast (year month : ℕ) :
    Calendar.monthLength year month = monthLength year month := by
  simp only [Calendar.monthLength, monthLength, isLeap_cast]

/-- The days through a month are the calendar's. -/
theorem daysThroughMonth_cast (year month : ℕ) :
    Calendar.daysThroughMonth year month = daysThroughMonth year month := by
  induction month with
  | zero => rfl
  | succ month ih => rw [Calendar.daysThroughMonth, daysThroughMonth, ih, monthLength_cast]

/-- The days before a year are the calendar's. -/
theorem daysBeforeYear_cast (year : ℕ) : Calendar.daysBeforeYear year = daysBeforeYear year := by
  induction year with
  | zero => rfl
  | succ year ih =>
    rw [Nat.cast_succ, Calendar.daysBeforeYear_succ, ih, yearLength_cast, daysBeforeYear,
      Nat.cast_add]

/-- The leap days before `year`, in closed form. -/
theorem daysBeforeYear_eq (year : ℕ) :
    daysBeforeYear year
      = 365 * year + (year + 3) / 4 - (year + 99) / 100 + (year + 399) / 400 := by
  have hyears := daysBeforeYear_cast year
  have hclosed : Calendar.daysBeforeYear year = 365 * year + ((year + 3) / 4 : ℕ)
      - ((year + 99) / 100 : ℕ) + ((year + 399) / 400 : ℕ) := rfl
  omega

/-- 1970-01-01. -/
def epochDay : ℕ := dayNumber 1970 1 1

/-- The day of the epoch, counted from the year zero. -/
theorem epochDay_eq : epochDay = 719528 := by
  simp [epochDay, dayNumber, daysBeforeYear_eq, daysThroughMonth]

/-! ### Digits -/

/-- The ASCII digit of a value below ten. -/
def digit (n : ℕ) : UInt8 := UInt8.ofNat (48 + n)

/-- `n` in exactly `k` decimal digits. -/
def pad : ℕ → ℕ → Bytes
  | 0, _ => []
  | k + 1, n => pad k (n / 10) ++ [digit (n % 10)]

/-- A padded number has the width asked for. -/
@[simp] theorem length_pad (k n : ℕ) : (pad k n).length = k := by
  induction k generalizing n with
  | zero => rfl
  | succ k ih => simp [pad, ih]

/-- The value of a list of digits. -/
def value (ds : List ℕ) : ℕ := ds.foldl (fun v d => v * 10 + d) 0

/-- A digit at the end is worth its value, and the ones before ten times theirs. -/
theorem value_concat (ds : List ℕ) (d : ℕ) : value (ds ++ [d]) = value ds * 10 + d := by
  simp [value]

/-- Digits are worth less than one more digit would be. -/
theorem value_lt {ds : List ℕ} (h : ∀ d ∈ ds, d < 10) : value ds < 10 ^ ds.length := by
  induction ds using List.reverseRecOn with
  | nil => simp [value]
  | append_singleton ds d ih =>
    have hd := h d (by simp)
    have hds := ih fun e he => h e (by simp [he])
    rw [value_concat, List.length_append, List.length_singleton, pow_succ]
    omega

/-- Only zeros are worth zero. -/
theorem value_eq_zero {ds : List ℕ} : value ds = 0 ↔ ∀ d ∈ ds, d = 0 := by
  induction ds using List.reverseRecOn with
  | nil => simp [value]
  | append_singleton ds d ih =>
    rw [value_concat, List.forall_mem_append, ← ih]
    simp

/-! ### Date-times -/

/-- How the zone of a time is written. -/
inductive Zone
  /-- `Z`, or `z`. -/
  | utc (lower : Bool)
  /-- `+hh:mm` when ahead of UTC, `-hh:mm` when behind. -/
  | numeric (ahead : Bool) (hour minute : ℕ)

/-- The parts of a written time, a fraction among them. -/
structure Stamp where
  year : ℕ
  month : ℕ
  day : ℕ
  /-- The separator is `t` instead of `T`. -/
  lower : Bool
  hour : ℕ
  minute : ℕ
  second : ℕ
  /-- The digits after the point, when there is one. -/
  fraction : Option (List ℕ)
  zone : Zone

/-- An offset within a day. -/
def Zone.Valid : Zone → Prop
  | .utc _ => True
  | .numeric _ hour minute => hour ≤ 23 ∧ minute ≤ 59

/-- Every part is in its range, the day in that of its month. -/
structure Stamp.Valid (st : Stamp) : Prop where
  year : st.year ≤ 9999
  month : 1 ≤ st.month ∧ st.month ≤ 12
  day : 1 ≤ st.day ∧ st.day ≤ monthLength st.year st.month
  hour : st.hour ≤ 23
  minute : st.minute ≤ 59
  second : st.second ≤ 59
  fraction : ∀ ds, st.fraction = some ds → ds ≠ [] ∧ ∀ d ∈ ds, d < 10
  zone : st.zone.Valid

/-- A zone as it is written. -/
def Zone.render : Zone → Bytes
  | .utc lower => [if lower then 122 else 90]
  | .numeric ahead hour minute =>
    (if ahead then 43 else 45) :: (pad 2 hour ++ 58 :: pad 2 minute)

/-- A fraction as it is written. -/
def renderFraction : Option (List ℕ) → Bytes
  | none => []
  | some ds => 46 :: ds.map digit

/-- The ASCII text of a date-time. -/
def Stamp.render (st : Stamp) : Bytes :=
  pad 4 st.year ++ 45 :: (pad 2 st.month ++ 45 :: (pad 2 st.day ++
    (if st.lower then 116 else 84) :: (pad 2 st.hour ++ 58 :: (pad 2 st.minute ++
      58 :: (pad 2 st.second ++ (renderFraction st.fraction ++ st.zone.render))))))

/-! ### Instants -/

/-- Seconds ahead of UTC. -/
def Zone.offset : Zone → ℤ
  | .utc _ => 0
  | .numeric ahead hour minute =>
    if ahead then hour * 3600 + minute * 60 else -(hour * 3600 + minute * 60)

/-- The instant without its fraction. -/
def Stamp.wholeSeconds (st : Stamp) : ℤ :=
  ((dayNumber st.year st.month st.day : ℤ) - epochDay) * 86400
    + (st.hour * 3600 + st.minute * 60 + st.second) - st.zone.offset

/-- `0.d₁d₂…`. -/
def fractionValue : Option (List ℕ) → ℚ
  | none => 0
  | some ds => value ds / 10 ^ ds.length

/-- Seconds since 1970-01-01T00:00:00Z, exactly. -/
def Stamp.instant (st : Stamp) : ℚ := st.wholeSeconds + fractionValue st.fraction

/-- The fraction has a nonzero digit. -/
def Stamp.HasFraction (st : Stamp) : Prop := ∃ ds, st.fraction = some ds ∧ ∃ d ∈ ds, d ≠ 0

/-- The text `s` is an RFC 3339 date-time of the exact instant `q`. -/
def Spells (s : Str) (q : ℚ) : Prop := ∃ st : Stamp, st.Valid ∧ utf8 s = st.render ∧ q = st.instant

/-- A fraction is not negative. -/
theorem fractionValue_nonneg (f : Option (List ℕ)) : 0 ≤ fractionValue f := by
  cases f with
  | none => exact le_refl _
  | some ds =>
    simp only [fractionValue]
    positivity

/-- A fraction is less than a second. -/
theorem Stamp.Valid.fraction_lt_one {st : Stamp} (h : st.Valid) :
    fractionValue st.fraction < 1 := by
  cases hf : st.fraction with
  | none => simp [fractionValue]
  | some ds =>
    have hlt : (value ds : ℚ) < 10 ^ ds.length := by
      exact_mod_cast value_lt (h.fraction ds hf).2
    rw [fractionValue, div_lt_one (by positivity)]
    exact hlt

/-- A fraction is zero when all its digits are. -/
theorem Stamp.fraction_eq_zero_iff {st : Stamp} :
    fractionValue st.fraction = 0 ↔ ¬ st.HasFraction := by
  unfold Stamp.HasFraction
  cases st.fraction with
  | none => simp [fractionValue]
  | some ds =>
    have hpow : (10 : ℚ) ^ ds.length ≠ 0 := by positivity
    simp [fractionValue, hpow, value_eq_zero]

/-- Rounding an instant up adds one second exactly when the fraction is not zero. -/
theorem Stamp.ceil_instant {st : Stamp} (h : st.Valid) [Decidable st.HasFraction] :
    ⌈st.instant⌉ = if st.HasFraction then st.wholeSeconds + 1 else st.wholeSeconds := by
  have hlt := h.fraction_lt_one
  unfold Stamp.instant
  split
  · rename_i hf
    have hne : fractionValue st.fraction ≠ 0 := fun h0 => st.fraction_eq_zero_iff.mp h0 hf
    have hpos : 0 < fractionValue st.fraction :=
      lt_of_le_of_ne (fractionValue_nonneg _) hne.symm
    rw [Int.ceil_eq_iff]
    push_cast
    constructor <;> linarith
  · rename_i hf
    rw [st.fraction_eq_zero_iff.mpr hf, add_zero, Int.ceil_intCast]

end Wire.Rfc3339
