import AttestationVerify.Time
import AttestationVerify.Wire.Machine

namespace AttestationVerify

open Wire Wire.Machine

/-!
# The timestamp parser on machine values

`time.rs` once more, with the operations that panic when an index is out of bounds or a value does
not fit its type: raw indexing, the `u32` of a run of digits, the `usize` of a position and the
`i64` of the calendar.

* `parseRfc3339Checked` — the parser, operation by operation;
* `readDigitsChecked_eq`, `daysFromCivilChecked_eq`, … — none of its functions panics where it is
  called;
* `computes_parseRfc3339` — so the machine computes `parseRfc3339`.
-/

/-! ### The operations -/

/-- The loop of `read_digits`. -/
def readDigitsLoop : Bytes → ℕ → Option (Option ℕ)
  | [], value => some (some value)
  | b :: slice, value =>
    if isAsciiDigit b then do
      let digit ← subNat b.toNat 48
      let tens ← u32 (value * 10)
      let value ← u32 (tens + digit)
      readDigitsLoop slice value
    else some none

/-- `read_digits` with the overflow checks of its arithmetic. -/
def readDigitsChecked (usizeMax : ℕ) (bytes : Bytes) (start n : ℕ) : Option (Option ℕ) :=
  -- `checked_add` and `get` fail without a panic
  if usizeMax < start + n then some none
  else if bytes.length < start + n then some none
  else readDigitsLoop ((bytes.drop start).take n) 0

/-- `days_from_civil` over `i64`, `none` on an overflow. -/
def daysFromCivilChecked (year : ℤ) (month day : ℕ) : Option ℤ := do
  let y ← (if month ≤ 2 then i64 (year - 1) else some year)
  let dividend ← (if y ≥ 0 then some y else i64 (y - 399))
  let era ← i64 (dividend.tdiv 400)
  let eraYears ← i64 (era * 400)
  let yearOfEra ← i64 (y - eraYears)
  let month ← i64 (month + 9)
  let monthPrime ← i64 (month.tmod 12)
  let product ← i64 (153 * monthPrime)
  let sum ← i64 (product + 2)
  let dayOfYear ← i64 (sum.tdiv 5 + day)
  let dayOfYear ← i64 (dayOfYear - 1)
  let years ← i64 (yearOfEra * 365)
  let years ← i64 (years + yearOfEra.tdiv 4)
  let years ← i64 (years - yearOfEra.tdiv 100)
  let dayOfEra ← i64 (years + dayOfYear)
  let eraDays ← i64 (era * 146097)
  let days ← i64 (eraDays + dayOfEra)
  i64 (days - 719468)

/-- The loop over the digits of the fraction. -/
def fractionLoop (usizeMax : ℕ) (bytes : Bytes) (pos : ℕ) (hasNonzeroFraction : Bool) :
    Option (ℕ × Bool) :=
  if _hpos : pos < bytes.length then
    match index bytes pos with
    | none => none
    | some b =>
      if isAsciiDigit b then
        match _hnext : usize usizeMax (pos + 1) with
        | none => none
        | some next => fractionLoop usizeMax bytes next (hasNonzeroFraction || b != 48)
      else some (pos, hasNonzeroFraction)
  else some (pos, hasNonzeroFraction)
  termination_by bytes.length - pos
  decreasing_by
    have hnext := eq_of_usize _hnext
    omega

/-- The fraction's loop with indexing and overflow checked. -/
def parseFractionChecked (usizeMax : ℕ) (err : String → Error) (bytes : Bytes) :
    Checked Error (ℕ × Bool) := do
  let b ← orPanic (index bytes 19)
  if b = 46 then
    let fracStart ← orPanic (usize usizeMax (19 + 1))
    let (pos, hasNonzeroFraction) ← orPanic (fractionLoop usizeMax bytes fracStart false)
    ensure (pos ≠ fracStart) (err "'.' must be followed by at least one digit")
    pure (pos, hasNonzeroFraction)
  else pure (19, false)

/-- The offset with indexing and overflow checked. -/
def parseOffsetChecked (usizeMax : ℕ) (err : String → Error) (bytes : Bytes) (pos : ℕ) :
    Checked Error (ℕ × ℤ) := do
  ensure (pos < bytes.length) (err "missing timezone designator")
  let b ← orPanic (index bytes pos)
  if b = 90 ∨ b = 122 then
    let pos ← orPanic (usize usizeMax (pos + 1))
    pure (pos, 0)
  else if b = 43 ∨ b = 45 then
    let pos ← orPanic (usize usizeMax (pos + 1))
    let offsetHour ← orPanic (readDigitsChecked usizeMax bytes pos 2)
    let offsetHour ← okOr offsetHour (err "invalid offset hours")
    let pos ← orPanic (usize usizeMax (pos + 2))
    ensure (pos < bytes.length) (err "expected ':' in timezone offset")
    let colon ← orPanic (index bytes pos)
    ensure (colon = 58) (err "expected ':' in timezone offset")
    let pos ← orPanic (usize usizeMax (pos + 1))
    let offsetMinute ← orPanic (readDigitsChecked usizeMax bytes pos 2)
    let offsetMinute ← okOr offsetMinute (err "invalid offset minutes")
    let pos ← orPanic (usize usizeMax (pos + 2))
    ensure (offsetHour ≤ 23 ∧ offsetMinute ≤ 59) (err "timezone offset out of range")
    let hourSeconds ← orPanic (i64 (offsetHour * 3600))
    let minuteSeconds ← orPanic (i64 (offsetMinute * 60))
    let magnitude ← orPanic (i64 (hourSeconds + minuteSeconds))
    let offset ← orPanic (if b = 45 then i64 (-magnitude) else some magnitude)
    pure (pos, offset)
  else throw (err "expected 'Z' or a numeric timezone offset")

/-- `parse_rfc3339` with every operation that could panic checked. -/
def parseRfc3339Checked (usizeMax : ℕ) (field : String) (s : Str) : Checked Error ℤ := do
  let bytes := utf8 s
  let err (reason : String) : Error := .parse (.rfc3339 field reason)
  ensure (20 ≤ bytes.length) (err "too short to be a valid RFC 3339 timestamp")
  let year ← orPanic (readDigitsChecked usizeMax bytes 0 4)
  let year ← okOr year (err "invalid year")
  expectByte err bytes 4 45
  let month ← orPanic (readDigitsChecked usizeMax bytes 5 2)
  let month ← okOr month (err "invalid month")
  expectByte err bytes 7 45
  let day ← orPanic (readDigitsChecked usizeMax bytes 8 2)
  let day ← okOr day (err "invalid day")
  let separator ← orPanic (index bytes 10)
  ensure (separator = 84 ∨ separator = 116) (err "expected 'T' date/time separator")
  let hour ← orPanic (readDigitsChecked usizeMax bytes 11 2)
  let hour ← okOr hour (err "invalid hour")
  expectByte err bytes 13 58
  let minute ← orPanic (readDigitsChecked usizeMax bytes 14 2)
  let minute ← okOr minute (err "invalid minute")
  expectByte err bytes 16 58
  let second ← orPanic (readDigitsChecked usizeMax bytes 17 2)
  let second ← okOr second (err "invalid second")
  ensure (1 ≤ month ∧ month ≤ 12) (err "month out of range")
  ensure (1 ≤ day ∧ day ≤ daysInMonth year month) (err "day out of range for its month")
  ensure (hour ≤ 23) (err "hour out of range")
  ensure (minute ≤ 59) (err "minute out of range")
  ensure (second ≤ 59) (err "second out of range")
  let (pos, hasNonzeroFraction) ← parseFractionChecked usizeMax err bytes
  let (pos, offsetSeconds) ← parseOffsetChecked usizeMax err bytes pos
  ensure (pos = bytes.length) (err "unexpected trailing characters")
  let days ← orPanic (daysFromCivilChecked year month day)
  let hourSeconds ← orPanic (i64 (hour * 3600))
  let minuteSeconds ← orPanic (i64 (minute * 60))
  let timeOfDaySeconds ← orPanic (i64 (hourSeconds + minuteSeconds))
  let timeOfDaySeconds ← orPanic (i64 (timeOfDaySeconds + second))
  let daySeconds ← orPanic (i64 (days * 86400))
  let unixTime ← orPanic (i64 (daySeconds + timeOfDaySeconds))
  let unixTime ← orPanic (i64 (unixTime - offsetSeconds))
  orPanic (if hasNonzeroFraction then i64 (unixTime + 1) else some unixTime)

/-! ### Digits -/

/-- The loop over at most nine digits does not overflow. -/
theorem readDigitsLoop_eq {slice : Bytes} {value : ℕ}
    (h : (value + 1) * 10 ^ slice.length ≤ 2 ^ 32) :
    readDigitsLoop slice value = some (if slice.all isAsciiDigit then
      some (slice.foldl (fun value b => value * 10 + (b.toNat - 48)) value) else none) := by
  induction slice generalizing value with
  | nil => rfl
  | cons b slice ih =>
    rw [readDigitsLoop, List.all_cons, List.foldl_cons]
    by_cases hb : isAsciiDigit b
    · obtain ⟨d, hd, rfl⟩ := isAsciiDigit_iff.mp hb
      have hdigit := toNat_digit hd
      have hlow : 48 ≤ (Wire.Rfc3339.digit d).toNat := by
        have hdigits : ∀ n : Fin 10, 48 ≤ (Wire.Rfc3339.digit n).toNat := by decide
        exact hdigits ⟨d, hd⟩
      have hpow : 1 ≤ 10 ^ slice.length := Nat.one_le_pow _ _ (by omega)
      rw [List.length_cons, pow_succ] at h
      -- what is read so far, with room for the digits to come
      have hnext : (value * 10 + d + 1) * 10 ^ slice.length ≤ 2 ^ 32 := by
        calc (value * 10 + d + 1) * 10 ^ slice.length
            ≤ ((value + 1) * 10) * 10 ^ slice.length := Nat.mul_le_mul_right _ (by omega)
          _ = (value + 1) * (10 ^ slice.length * 10) := by ring
          _ ≤ 2 ^ 32 := h
      have hfits : value * 10 + d + 1 ≤ 2 ^ 32 :=
        (Nat.le_mul_of_pos_right _ hpow).trans hnext
      rw [if_pos hb, subNat_of_le hlow, hdigit, u32_of_lt (by omega)]
      rw [some_bind, some_bind, u32_of_lt (by omega), some_bind, ih hnext, hb, Bool.true_and]
    · rw [if_neg hb]
      simp [hb]

/-- Fewer than ten digits fit their type. -/
theorem readDigitsChecked_eq {usizeMax start n : ℕ} {bytes : Bytes}
    (h : bytes.length ≤ usizeMax) (hn : 0 < n) (hn9 : n ≤ 9) :
    readDigitsChecked usizeMax bytes start n = some (readDigits bytes start n) := by
  have hlength : ((bytes.drop start).take n).length = min n (bytes.length - start) := by
    rw [List.length_take, List.length_drop]
  -- a chunk that does not fit in the text is refused by both
  by_cases hin : start + n ≤ bytes.length
  · have hchunk : ((bytes.drop start).take n).length = n := by omega
    have hfits : (0 + 1) * 10 ^ ((bytes.drop start).take n).length ≤ 2 ^ 32 := by
      rw [hchunk, zero_add, one_mul]
      calc 10 ^ n ≤ 10 ^ 9 := Nat.pow_le_pow_right (by omega) hn9
        _ ≤ 2 ^ 32 := by decide
    unfold readDigitsChecked readDigits
    rw [if_neg (by omega), if_neg (by omega), readDigitsLoop_eq hfits]
    simp [hchunk]
  · have hchunk : ((bytes.drop start).take n).length ≠ n := by omega
    have hnone : readDigits bytes start n = none := if_neg fun hall => hchunk hall.1
    unfold readDigitsChecked
    rw [hnone, if_pos (show bytes.length < start + n by omega), ite_self]

/-! ### The calendar -/

/-- No operation leaves `i64`: the eras of the years 0 to 9999 are few. -/
theorem daysFromCivilChecked_eq {year month day : ℕ} (hyear : year ≤ 9999)
    (hmonth : 1 ≤ month ∧ month ≤ 12) (hday : day ≤ 31) :
    daysFromCivilChecked year month day = some (daysFromCivil year month day) := by
  have hy : (if month ≤ 2 then i64 ((year : ℤ) - 1) else some (year : ℤ)) =
      some (if month ≤ 2 then (year : ℤ) - 1 else year) := by
    split
    · exact i64_of_bounds (by omega) (by omega)
    · rfl
  have hbounds : -1 ≤ (if month ≤ 2 then (year : ℤ) - 1 else year) ∧
      (if month ≤ 2 then (year : ℤ) - 1 else year) ≤ 9999 := by
    split <;> omega
  unfold daysFromCivilChecked daysFromCivil
  dsimp only
  rw [hy]
  generalize (if month ≤ 2 then (year : ℤ) - 1 else year) = y at hbounds ⊢
  have hdividend : (if y ≥ 0 then some y else i64 (y - 399)) =
      some (if y ≥ 0 then y else y - 399) := by
    split
    · rfl
    · exact i64_of_bounds (by omega) (by omega)
  -- every division rounds down, so that all that follows is linear
  have hera := era_eq_floor y
  have hmod : ((month : ℤ) + 9).tmod 12 = ((month : ℤ) + 9) % 12 :=
    Int.tmod_eq_emod_of_nonneg (by omega)
  have hyears : 0 ≤ y - y / 400 * 400 ∧ y - y / 400 * 400 < 400 := by omega
  have hquarter : (y - y / 400 * 400).tdiv 4 = (y - y / 400 * 400) / 4 :=
    Int.tdiv_eq_ediv_of_nonneg hyears.1
  have hhundredth : (y - y / 400 * 400).tdiv 100 = (y - y / 400 * 400) / 100 :=
    Int.tdiv_eq_ediv_of_nonneg hyears.1
  have hfifth : (153 * (((month : ℤ) + 9) % 12) + 2).tdiv 5 =
      (153 * (((month : ℤ) + 9) % 12) + 2) / 5 :=
    Int.tdiv_eq_ediv_of_nonneg (by omega)
  -- each bound follows from those of `y`, of the month and of the day
  rw [some_bind, hdividend, some_bind, hera, i64_bind (by omega) (by omega),
    i64_bind (by omega) (by omega), i64_bind (by omega) (by omega),
    i64_bind (by omega) (by omega), hmod, i64_bind (by omega) (by omega),
    i64_bind (by omega) (by omega), i64_bind (by omega) (by omega), hfifth,
    i64_bind (by omega) (by omega), i64_bind (by omega) (by omega),
    i64_bind (by omega) (by omega), hquarter, i64_bind (by omega) (by omega), hhundredth,
    i64_bind (by omega) (by omega), i64_bind (by omega) (by omega),
    i64_bind (by omega) (by omega), i64_bind (by omega) (by omega)]
  exact i64_of_bounds (by omega) (by omega)

/-! ### The fraction -/

/-- The loop stops behind the run of digits at `pos`, which lies inside the text. -/
theorem fractionLoop_eq {usizeMax pos : ℕ} {bytes : Bytes} {nonzero : Bool}
    (h : bytes.length ≤ usizeMax) :
    fractionLoop usizeMax bytes pos nonzero =
      some (pos + ((bytes.drop pos).takeWhile isAsciiDigit).length,
        nonzero || ((bytes.drop pos).takeWhile isAsciiDigit).any (· != 48)) := by
  induction hsuffix : bytes.drop pos generalizing pos nonzero with
  | nil =>
    rw [fractionLoop, dif_neg (by simpa using hsuffix)]
    simp
  | cons b suffix ih =>
    have hb := getElem?_of_drop hsuffix
    obtain ⟨hlt, -⟩ := List.getElem?_eq_some_iff.mp hb
    -- the position is inside the text, whose length is a `usize`
    have husize : usize usizeMax (pos + 1) = some (pos + 1) := usize_of_le (by omega)
    rw [fractionLoop, dif_pos hlt]
    simp only [index, hb]
    by_cases hdigit : isAsciiDigit b
    · rw [if_pos hdigit, List.takeWhile_cons_of_pos hdigit, List.length_cons, List.any_cons]
      split
      · rename_i hnone
        rw [husize] at hnone
        cases hnone
      · rename_i next hnext
        -- the induction is on the text left at the position
        rw [eq_of_usize hnext, ih (drop_byte hsuffix), Bool.or_assoc]
        congr 2
        omega
    · rw [if_neg hdigit, List.takeWhile_cons_of_neg hdigit]
      simp

section Parser

variable {usizeMax : ℕ} {err : String → Error} {bytes : Bytes}

/-- On twenty bytes or more the fraction never panics. -/
theorem computes_parseFraction (h20 : 20 ≤ bytes.length) (h : bytes.length ≤ usizeMax) :
    Computes (parseFractionChecked usizeMax err bytes) (parseFraction err bytes) := by
  have hlt : 19 < bytes.length := by omega
  have hb : bytes[19]? = some bytes[19] := List.getElem?_eq_getElem hlt
  unfold parseFractionChecked parseFraction
  apply Computes.step (index_of_lt hlt)
  by_cases hpoint : bytes[19] = 46
  · rw [if_pos hpoint, if_pos (hb.trans (congrArg some hpoint))]
    apply Computes.step (usize_of_le (show 19 + 1 ≤ usizeMax by omega))
    apply Computes.step (fractionLoop_eq h)
    -- the loop has not moved exactly when there is no digit
    by_cases hdigits : (bytes.drop 20).takeWhile isAsciiDigit = []
    · simp [hdigits, ensure]
      rfl
    · simp [hdigits, ensure]
      rfl
  · rw [if_neg hpoint, if_neg (fun h => hpoint (Option.some.inj (hb.symm.trans h)))]
    rfl

/-- A field of the text: what its digits are worth. -/
theorem computes_readDigits {start n : ℕ} {e : Error} {α : Type} {k : ℕ → Checked Error α}
    {f : ℕ → Except Error α} (h : bytes.length ≤ usizeMax) (hn : 0 < n) (hn9 : n ≤ 9)
    (hk : ∀ value, readDigits bytes start n = some value → Computes (k value) (f value)) :
    Computes (orPanic (readDigitsChecked usizeMax bytes start n) >>= fun value =>
        liftM (okOr value e) >>= k)
      (okOr (readDigits bytes start n) e >>= f) := by
  apply Computes.step (readDigitsChecked_eq h hn hn9)
  apply Computes.bind (Computes.liftExcept _)
  intro value hvalue
  exact hk value (okOr_eq_ok.mp hvalue)

/-! ### The zone designator -/

/-- Digits that could be read lie inside the text. -/
theorem le_length_of_readDigits {start n value : ℕ} (hn : 0 < n)
    (h : readDigits bytes start n = some value) : start + n ≤ bytes.length := by
  unfold readDigits at h
  dsimp only at h
  split at h
  · rename_i hall
    have hlength := hall.1
    rw [List.length_take, List.length_drop] at hlength
    omega
  · cases h

/-- The test of a raw index is the one on an optional byte, where there is a byte. -/
theorem computes_separator {pos : ℕ} {x y : UInt8} {e : Error} {α : Type} {k : Checked Error α}
    {w : Except Error α} (hlt : pos < bytes.length) (hk : Computes k w) :
    Computes (orPanic (index bytes pos) >>= fun b =>
        liftM (ensure (b = x ∨ b = y) e) >>= fun _ => k)
      (ensure (bytes[pos]? = some x ∨ bytes[pos]? = some y) e >>= fun _ => w) := by
  have hb : bytes[pos]? = some bytes[pos] := List.getElem?_eq_getElem hlt
  have hiff : (bytes[pos] = x ∨ bytes[pos] = y) ↔
      (bytes[pos]? = some x ∨ bytes[pos]? = some y) := by
    rw [hb, Option.some.injEq, Option.some.injEq]
  apply Computes.step (index_of_lt hlt)
  by_cases hseparator : bytes[pos] = x ∨ bytes[pos] = y
  · rw [ensure_of hseparator, ensure_of (hiff.mp hseparator)]
    exact hk
  · rw [ensure_not hseparator, ensure_not fun h => hseparator (hiff.mpr h)]
    rfl

/-- The two tests of the source for a colon are the one on an optional byte. -/
theorem computes_colon {pos : ℕ} {e : Error} {α : Type} {k : Checked Error α} {w : Except Error α}
    (hk : bytes[pos]? = some 58 → Computes k w) :
    Computes (liftM (ensure (pos < bytes.length) e) >>= fun _ => orPanic (index bytes pos) >>=
        fun colon => liftM (ensure (colon = 58) e) >>= fun _ => k)
      (ensure (bytes[pos]? = some 58) e >>= fun _ => w) := by
  by_cases hlt : pos < bytes.length
  · have hb : bytes[pos]? = some bytes[pos] := List.getElem?_eq_getElem hlt
    rw [ensure_of hlt]
    apply Computes.stepOk (Computes.liftExcept _)
    apply Computes.step (index_of_lt hlt)
    by_cases hcolon : bytes[pos] = 58
    · have hsome : bytes[pos]? = some 58 := hb.trans (congrArg some hcolon)
      rw [ensure_of hcolon, ensure_of hsome]
      exact hk hsome
    · rw [ensure_not hcolon, ensure_not (fun h => hcolon (Option.some.inj (hb.symm.trans h)))]
      rfl
  · have hnone : bytes[pos]? = none := List.getElem?_eq_none (not_lt.mp hlt)
    rw [ensure_not hlt, ensure_not (by simp [hnone])]
    rfl

/-- The offset never panics. -/
theorem computes_parseOffset {pos : ℕ} (h : bytes.length ≤ usizeMax) :
    Computes (parseOffsetChecked usizeMax err bytes pos) (parseOffset err bytes pos) := by
  unfold parseOffsetChecked parseOffset
  by_cases hlt : pos < bytes.length
  · have hb : bytes[pos]? = some bytes[pos] := List.getElem?_eq_getElem hlt
    rw [ensure_of hlt, hb]
    apply Computes.stepOk (Computes.liftExcept _)
    apply Computes.step (index_of_lt hlt)
    generalize bytes[pos] = b
    have hnext : usize usizeMax (pos + 1) = some (pos + 1) := usize_of_le (by omega)
    dsimp only
    by_cases hutc : b = 90 ∨ b = 122
    · rw [if_pos hutc, if_pos hutc]
      exact Computes.step hnext (Computes.pure _)
    · rw [if_neg hutc, if_neg hutc]
      by_cases hsign : b = 43 ∨ b = 45
      · rw [if_pos hsign, if_pos hsign]
        apply Computes.step hnext
        -- the hours, the colon and the minutes, all read inside the text
        apply computes_readDigits h (by omega) (by omega)
        intro hour hhour
        have hin := le_length_of_readDigits (by omega) hhour
        apply Computes.step (usize_of_le (show pos + 1 + 2 ≤ usizeMax by omega))
        apply computes_colon
        intro hcolon
        obtain ⟨hlt', -⟩ := List.getElem?_eq_some_iff.mp hcolon
        apply Computes.step (usize_of_le (show pos + 3 + 1 ≤ usizeMax by omega))
        apply computes_readDigits h (by omega) (by omega)
        intro minute hminute
        have hin' := le_length_of_readDigits (by omega) hminute
        apply Computes.step (usize_of_le (show pos + 4 + 2 ≤ usizeMax by omega))
        -- in range, the offset is less than a day
        apply Computes.check
        intro hrange
        apply Computes.step (i64_of_bounds (by omega) (by omega))
        apply Computes.step (i64_of_bounds (by omega) (by omega))
        apply Computes.step (i64_of_bounds (by omega) (by omega))
        apply Computes.step (c := if b = 45 then -((hour : ℤ) * 3600 + minute * 60)
          else hour * 3600 + minute * 60)
        · split
          · exact i64_of_bounds (by omega) (by omega)
          · rfl
        · exact Computes.pure _
      · rw [if_neg hsign, if_neg hsign]
        rfl
  · rw [ensure_not hlt, List.getElem?_eq_none (not_lt.mp hlt)]
    rfl

end Parser

/-! ### The whole timestamp -/

/-- Day numbers of four-digit years are far from the bounds of `i64`. -/
theorem daysFromCivil_bounds {year day : ℕ} (month : ℕ) (hyear : year ≤ 9999) (hday : day ≤ 31) :
    -720000 ≤ daysFromCivil year month day ∧ daysFromCivil year month day ≤ 3000000 := by
  have hmarch : 0 ≤ daysBeforeMonthFromMarch month ∧ daysBeforeMonthFromMarch month ≤ 337 := by
    unfold daysBeforeMonthFromMarch
    omega
  rw [daysFromCivil_eq_march]
  dsimp only
  split <;> omega

/-- A zone is less than a day from UTC. -/
theorem offset_bounds {z : Rfc3339.Zone} (h : z.Valid) : -86400 < z.offset ∧ z.offset < 86400 := by
  cases z with
  | utc lower => simp [Rfc3339.Zone.offset]
  | numeric ahead hour minute =>
    obtain ⟨hhour, hminute⟩ : hour ≤ 23 ∧ minute ≤ 59 := h
    unfold Rfc3339.Zone.offset
    dsimp only
    split <;> omega

/-- **No string makes the parser panic.**  On every text whose length is a `usize` no index is out
    of bounds and no value leaves its type, so the machine computes `parseRfc3339`. -/
theorem computes_parseRfc3339 {usizeMax : ℕ} (field : String) {s : Str}
    (h : (utf8 s).length ≤ usizeMax) :
    Computes (parseRfc3339Checked usizeMax field s) (parseRfc3339 field s) := by
  unfold parseRfc3339Checked parseRfc3339
  dsimp only
  apply Computes.check
  intro h20
  -- The date and the time of day, at positions that twenty bytes always have.
  apply computes_readDigits h (by omega) (by omega)
  intro year hyear
  apply Computes.check
  intro _
  apply computes_readDigits h (by omega) (by omega)
  intro month _
  apply Computes.check
  intro _
  apply computes_readDigits h (by omega) (by omega)
  intro day _
  apply computes_separator (by omega)
  apply computes_readDigits h (by omega) (by omega)
  intro hour _
  apply Computes.check
  intro _
  apply computes_readDigits h (by omega) (by omega)
  intro minute _
  apply Computes.check
  intro _
  apply computes_readDigits h (by omega) (by omega)
  intro second _
  apply Computes.check
  intro hmonth
  apply Computes.check
  intro hday
  apply Computes.check
  intro hhour
  apply Computes.check
  intro hminute
  apply Computes.check
  intro hsecond
  -- The fraction and the zone designator.
  apply Computes.bind (computes_parseFraction h20 h)
  intro fraction _
  apply Computes.bind (computes_parseOffset h)
  intro offset hoffset
  apply Computes.check
  intro _
  -- The sum, every part of which the checks above have bounded.
  have hyear' : year ≤ 9999 := by
    have hlt := (readDigits_eq_some.mp hyear).1
    omega
  have hday' : day ≤ 31 := by
    rw [daysInMonth_eq hmonth] at hday
    exact hday.2.trans (monthLength_le year month)
  obtain ⟨z, hz, -, -, hvalue⟩ := (parseOffset_eq_ok _).mp hoffset
  have hoffset' := offset_bounds hz
  rw [← hvalue] at hoffset'
  have hdays := daysFromCivil_bounds month hyear' hday'
  apply Computes.step (daysFromCivilChecked_eq hyear' hmonth hday')
  apply Computes.step (i64_of_bounds (by omega) (by omega))
  apply Computes.step (i64_of_bounds (by omega) (by omega))
  apply Computes.step (i64_of_bounds (by omega) (by omega))
  apply Computes.step (i64_of_bounds (by omega) (by omega))
  apply Computes.step (i64_of_bounds (by omega) (by omega))
  apply Computes.step (i64_of_bounds (by omega) (by omega))
  apply Computes.step (i64_of_bounds (by omega) (by omega))
  apply Computes.ofSome
  split
  · exact i64_of_bounds (by omega) (by omega)
  · rfl

end AttestationVerify
