import AttestationVerify.Error
import AttestationVerify.Wire.Outcome
import AttestationVerify.Wire.Rfc3339
import Mathlib.Tactic.IntervalCases

namespace AttestationVerify

open Wire Wire.Rfc3339

/-!
# RFC 3339 timestamps

`time.rs`: a positional parser over the bytes of the text.  Fractional seconds are rounded up to
the next whole second.

Every step of the parser reads a chunk of known shape at a known position.  The lemmas of the
second half state each as an equation on `bytes.drop position`; `parseRfc3339_eq_ok` chains them:
the accepted texts are exactly the RFC 3339 date-times, and the value is the exact instant rounded
up.
-/

/-- `u8::is_ascii_digit`. -/
def isAsciiDigit (b : UInt8) : Bool := 48 ≤ b && b ≤ 57

/-- Exactly `n` ASCII digits from `start` on, as a number. -/
def readDigits (bytes : Bytes) (start n : ℕ) : Option ℕ :=
  let slice := (bytes.drop start).take n
  if slice.length = n ∧ slice.all isAsciiDigit then
    some (slice.foldl (fun value b => value * 10 + (b.toNat - 48)) 0)
  else none

/-- The Gregorian rule. -/
def isLeapYear (year : ℕ) : Bool :=
  (year % 4 == 0 && year % 100 != 0) || year % 400 == 0

/-- The number of days of a month, 0 for a number that is no month. -/
def daysInMonth (year month : ℕ) : ℕ :=
  match month with
  | 1 | 3 | 5 | 7 | 8 | 10 | 12 => 31
  | 4 | 6 | 9 | 11 => 30
  | 2 => if isLeapYear year then 29 else 28
  | _ => 0

/-- Days since 1970-01-01; every division truncates, as `i64`'s does. -/
def daysFromCivil (year : ℤ) (month day : ℕ) : ℤ :=
  let y := if month ≤ 2 then year - 1 else year
  let era := (if y ≥ 0 then y else y - 399).tdiv 400
  let yearOfEra := y - era * 400
  -- the year starts in March, so that the leap day is its last
  let monthPrime : ℤ := ((month : ℤ) + 9).tmod 12
  let dayOfYear := (153 * monthPrime + 2).tdiv 5 + (day : ℤ) - 1
  let dayOfEra := yearOfEra * 365 + yearOfEra.tdiv 4 - yearOfEra.tdiv 100 + dayOfYear
  era * 146097 + dayOfEra - 719468

/-- The optional fraction at position 19: where it ends, and whether it has a nonzero digit. -/
def parseFraction (err : String → Error) (bytes : Bytes) : Except Error (ℕ × Bool) :=
  if bytes[19]? = some 46 then
    let digits := (bytes.drop 20).takeWhile isAsciiDigit
    if digits = [] then .error (err "'.' must be followed by at least one digit")
    else .ok (20 + digits.length, digits.any (· != 48))
  else .ok (19, false)

/-- The zone designator at `pos`: where it ends, and how far ahead of UTC it is. -/
def parseOffset (err : String → Error) (bytes : Bytes) (pos : ℕ) : Except Error (ℕ × ℤ) :=
  match bytes[pos]? with
  | none => .error (err "missing timezone designator")
  | some b =>
    -- `Z`, of either case, or a signed offset
    if b = 90 ∨ b = 122 then .ok (pos + 1, 0)
    else if b = 43 ∨ b = 45 then do
      let offsetHour ← okOr (readDigits bytes (pos + 1) 2) (err "invalid offset hours")
      ensure (bytes[pos + 3]? = some 58) (err "expected ':' in timezone offset")
      let offsetMinute ← okOr (readDigits bytes (pos + 4) 2) (err "invalid offset minutes")
      ensure (offsetHour ≤ 23 ∧ offsetMinute ≤ 59) (err "timezone offset out of range")
      let magnitude : ℤ := offsetHour * 3600 + offsetMinute * 60
      pure (pos + 6, if b = 45 then -magnitude else magnitude)
    else .error (err "expected 'Z' or a numeric timezone offset")

/-- A separator at its fixed position. -/
def expectByte (err : String → Error) (bytes : Bytes) (index : ℕ) (expected : UInt8) :
    Except Error Unit :=
  ensure (bytes[index]? = some expected) (err "malformed RFC 3339 timestamp structure")

/-- `parse_rfc3339`: seconds since the epoch, a fraction rounded up. -/
def parseRfc3339 (field : String) (s : Str) : Except Error ℤ := do
  let bytes := utf8 s
  let err (reason : String) : Error := .parse (.rfc3339 field reason)
  ensure (20 ≤ bytes.length) (err "too short to be a valid RFC 3339 timestamp")
  -- the fields at their fixed positions, up to the seconds
  let year ← okOr (readDigits bytes 0 4) (err "invalid year")
  expectByte err bytes 4 45
  let month ← okOr (readDigits bytes 5 2) (err "invalid month")
  expectByte err bytes 7 45
  let day ← okOr (readDigits bytes 8 2) (err "invalid day")
  ensure (bytes[10]? = some 84 ∨ bytes[10]? = some 116) (err "expected 'T' date/time separator")
  let hour ← okOr (readDigits bytes 11 2) (err "invalid hour")
  expectByte err bytes 13 58
  let minute ← okOr (readDigits bytes 14 2) (err "invalid minute")
  expectByte err bytes 16 58
  let second ← okOr (readDigits bytes 17 2) (err "invalid second")
  ensure (1 ≤ month ∧ month ≤ 12) (err "month out of range")
  ensure (1 ≤ day ∧ day ≤ daysInMonth year month) (err "day out of range for its month")
  ensure (hour ≤ 23) (err "hour out of range")
  ensure (minute ≤ 59) (err "minute out of range")
  ensure (second ≤ 59) (err "second out of range")
  -- the two parts of any length
  let (pos, hasNonzeroFraction) ← parseFraction err bytes
  let (pos, offsetSeconds) ← parseOffset err bytes pos
  ensure (pos = bytes.length) (err "unexpected trailing characters")
  let timeOfDaySeconds : ℤ := hour * 3600 + minute * 60 + second
  let unixTime := daysFromCivil year month day * 86400 + timeOfDaySeconds - offsetSeconds
  -- an instant between two seconds is rounded up
  pure (if hasNonzeroFraction then unixTime + 1 else unixTime)

/-! ### Chunks at a position -/

/-- The ASCII digits are `digit 0` to `digit 9`. -/
theorem isAsciiDigit_iff {b : UInt8} : isAsciiDigit b = true ↔ ∃ n < 10, b = digit n := by
  constructor
  · intro h
    simp only [isAsciiDigit, Bool.and_eq_true, decide_eq_true_eq, UInt8.le_iff_toNat_le] at h
    have h48 : 48 ≤ b.toNat := h.1
    have h57 : b.toNat ≤ 57 := h.2
    refine ⟨b.toNat - 48, by omega, ?_⟩
    rw [digit, Nat.add_sub_cancel' h48, UInt8.ofNat_toNat]
  · intro h
    obtain ⟨n, hn, rfl⟩ := h
    have hdigits : ∀ n : Fin 10, isAsciiDigit (digit n) = true := by decide
    exact hdigits ⟨n, hn⟩

/-- The value read off a digit's byte. -/
theorem toNat_digit {n : ℕ} (h : n < 10) : (digit n).toNat - 48 = n := by
  have hdigits : ∀ n : Fin 10, (digit n).toNat - 48 = n := by decide
  exact hdigits ⟨n, h⟩

/-- A run of `k` digits of value `v` is `v` padded to `k` digits. -/
theorem digits_eq_pad {k v : ℕ} {l : Bytes} :
    (l.length = k ∧ l.all isAsciiDigit = true ∧
      l.foldl (fun value b => value * 10 + (b.toNat - 48)) 0 = v) ↔ v < 10 ^ k ∧ l = pad k v := by
  induction k generalizing l v with
  | zero =>
    simp only [List.length_eq_zero_iff, pow_zero, Nat.lt_one_iff, pad]
    constructor
    · rintro ⟨rfl, -, rfl⟩; exact ⟨rfl, rfl⟩
    · rintro ⟨rfl, rfl⟩; exact ⟨rfl, rfl, rfl⟩
  | succ k ih =>
    constructor
    · intro h
      obtain ⟨hlen, hall, hv⟩ := h
      -- the last digit is the one added last
      rcases List.eq_nil_or_concat' l with rfl | ⟨l', b, rfl⟩
      · simp at hlen
      · simp only [List.length_append, List.length_singleton, Nat.add_right_cancel_iff] at hlen
        simp only [List.all_append, List.all_cons, List.all_nil, Bool.and_true,
          Bool.and_eq_true] at hall
        obtain ⟨n, hn, rfl⟩ := isAsciiDigit_iff.mp hall.2
        simp only [List.foldl_append, List.foldl_cons, List.foldl_nil, toNat_digit hn] at hv
        obtain ⟨hlt, hpad⟩ := ih.mp ⟨hlen, hall.1, rfl⟩
        generalize l'.foldl (fun value b => value * 10 + (b.toNat - 48)) 0 = v' at *
        subst hv
        rw [pow_succ, pad, show (v' * 10 + n) / 10 = v' by omega,
          show (v' * 10 + n) % 10 = n by omega, hpad]
        exact ⟨by omega, rfl⟩
    · intro h
      obtain ⟨hlt, rfl⟩ := h
      rw [pow_succ] at hlt
      obtain ⟨hlen, hall, hv⟩ := ih.mpr ⟨(show v / 10 < 10 ^ k by omega), rfl⟩
      have hn : v % 10 < 10 := by omega
      refine ⟨by simp, ?_, ?_⟩
      · simp only [pad, List.all_append, hall, List.all_cons, List.all_nil, Bool.and_true,
          Bool.true_and]
        exact isAsciiDigit_iff.mpr ⟨_, hn, rfl⟩
      · simp only [pad, List.foldl_append, hv, List.foldl_cons, List.foldl_nil, toNat_digit hn]
        omega

/-- A read number is spelled with leading zeros at its position. -/
theorem readDigits_eq_some {bytes : Bytes} {i k v : ℕ} :
    readDigits bytes i k = some v ↔
      v < 10 ^ k ∧ bytes.drop i = pad k v ++ bytes.drop (i + k) := by
  have hchunk : (bytes.drop i).take k = pad k v ↔
      bytes.drop i = pad k v ++ bytes.drop (i + k) := by
    constructor
    · intro h
      rw [← h, ← List.drop_drop, List.take_append_drop]
    · intro h
      rw [h, List.take_left' (length_pad k v)]
  rw [← hchunk, ← digits_eq_pad]
  unfold readDigits
  simp only
  split
  · rename_i h
    simp only [Option.some.injEq]
    tauto
  · rename_i h
    simp only [reduceCtorEq, false_iff]
    tauto

/-- A byte at a position opens what is left from there. -/
theorem getElem?_eq_some_drop {bytes : Bytes} {i : ℕ} {b : UInt8} :
    bytes[i]? = some b ↔ bytes.drop i = b :: bytes.drop (i + 1) := by
  constructor
  · intro h
    obtain ⟨hlt, rfl⟩ := List.getElem?_eq_some_iff.mp h
    exact List.drop_eq_getElem_cons hlt
  · intro h
    rw [← List.head?_drop, h, List.head?_cons]

section Suffix

variable {bytes rest : Bytes} {i : ℕ}

/-- After a padded number comes what follows it. -/
theorem drop_pad {k v : ℕ} (h : bytes.drop i = pad k v ++ rest) : bytes.drop (i + k) = rest := by
  rw [← List.drop_drop, h, List.drop_left' (length_pad k v)]

/-- After a byte comes what follows it. -/
theorem drop_byte {b : UInt8} (h : bytes.drop i = b :: rest) : bytes.drop (i + 1) = rest := by
  rw [← List.drop_drop, h, List.drop_one, List.tail_cons]

/-- A padded number at a position is read there. -/
theorem readDigits_of_drop {k v : ℕ} (h : bytes.drop i = pad k v ++ rest) (hv : v < 10 ^ k) :
    readDigits bytes i k = some v :=
  readDigits_eq_some.mpr ⟨hv, by rw [drop_pad h, h]⟩

/-- A byte at a position is found there. -/
theorem getElem?_of_drop {b : UInt8} (h : bytes.drop i = b :: rest) : bytes[i]? = some b := by
  rw [← List.head?_drop, h, List.head?_cons]

end Suffix

/-! ### The fraction -/

/-- The nonzero-digit flag of a fraction. -/
def hasNonzeroDigit : Option (List ℕ) → Bool
  | none => false
  | some ds => ds.any (· != 0)

instance (st : Stamp) : Decidable st.HasFraction :=
  decidable_of_iff (hasNonzeroDigit st.fraction = true) (by
    unfold Stamp.HasFraction
    cases st.fraction <;> simp [hasNonzeroDigit])

/-- A fraction has a nonzero digit exactly if it is not zero. -/
theorem hasNonzeroDigit_iff {st : Stamp} : hasNonzeroDigit st.fraction = true ↔ st.HasFraction := by
  unfold Stamp.HasFraction
  cases st.fraction <;> simp [hasNonzeroDigit]

/-- Nonzero bytes and nonzero digits are the same. -/
theorem any_nonzero_digits {ds : List ℕ} (h : ∀ d ∈ ds, d < 10) :
    (ds.map digit).any (· != 48) = ds.any (· != 0) := by
  induction ds with
  | nil => rfl
  | cons d ds ih =>
    have hdigit : ∀ n : Fin 10, (digit n != 48) = (n.val != 0) := by decide
    have hd := hdigit ⟨d, h d (by simp)⟩
    simp only [List.map_cons, List.any_cons, ih fun e he => h e (by simp [he])]
    rw [← hd]

/-- A run of digits, as numbers. -/
theorem exists_digits {l : Bytes} (h : l.all isAsciiDigit = true) :
    ∃ ds : List ℕ, l = ds.map digit ∧ ∀ d ∈ ds, d < 10 := by
  induction l with
  | nil => exact ⟨[], rfl, by simp⟩
  | cons b l ih =>
    simp only [List.all_cons, Bool.and_eq_true] at h
    obtain ⟨n, hn, rfl⟩ := isAsciiDigit_iff.mp h.1
    obtain ⟨ds, rfl, hds⟩ := ih h.2
    exact ⟨n :: ds, rfl, List.forall_mem_cons.mpr ⟨hn, hds⟩⟩

/-- What was skipped is a rendered fraction. -/
theorem parseFraction_sound {err : String → Error} {bytes : Bytes} {pos : ℕ} {nonzero : Bool}
    (h : parseFraction err bytes = .ok (pos, nonzero)) :
    ∃ f, (∀ ds, f = some ds → ds ≠ [] ∧ ∀ d ∈ ds, d < 10) ∧
      bytes.drop 19 = renderFraction f ++ bytes.drop pos ∧ nonzero = hasNonzeroDigit f := by
  simp only [parseFraction] at h
  split at h
  · rename_i hpoint
    split at h
    · simp at h
    · rename_i hne
      simp only [Except.ok.injEq, Prod.mk.injEq] at h
      obtain ⟨rfl, rfl⟩ := h
      -- the run of digits after the point
      obtain ⟨ds, hds, hlt⟩ := exists_digits (List.all_takeWhile (p := isAsciiDigit)
        (l := bytes.drop 20))
      have hrest : bytes.drop 20 = ds.map digit ++ bytes.drop (20 + ds.length) := by
        have hsplit := List.takeWhile_append_dropWhile (p := isAsciiDigit) (l := bytes.drop 20)
        rw [hds] at hsplit
        have hdrop := congrArg (List.drop ds.length) hsplit
        rw [List.drop_left' (by simp), List.drop_drop] at hdrop
        rw [← hdrop, hsplit]
      rw [hds] at hne ⊢
      refine ⟨some ds, ?_, ?_, any_nonzero_digits hlt⟩
      · rintro _ ⟨⟩
        exact ⟨by simpa using hne, hlt⟩
      · rw [getElem?_eq_some_drop.mp hpoint, renderFraction, List.length_map, List.cons_append,
          ← hrest]
  · simp only [Except.ok.injEq, Prod.mk.injEq] at h
    obtain ⟨rfl, rfl⟩ := h
    exact ⟨none, by simp, by simp [renderFraction], rfl⟩

/-- A rendered fraction is skipped, whatever follows it. -/
theorem parseFraction_complete (err : String → Error) {bytes tail : Bytes} {f : Option (List ℕ)}
    (hf : ∀ ds, f = some ds → ds ≠ [] ∧ ∀ d ∈ ds, d < 10)
    (hdrop : bytes.drop 19 = renderFraction f ++ tail)
    (htail : ∀ b, tail.head? = some b → b ≠ 46 ∧ isAsciiDigit b = false) :
    parseFraction err bytes = .ok (19 + (renderFraction f).length, hasNonzeroDigit f) := by
  cases f with
  | none =>
    have hpoint : bytes[19]? ≠ some 46 := by
      intro h
      have hhead : tail.head? = some 46 := by
        rw [← List.head?_drop, hdrop] at h
        simpa [renderFraction] using h
      exact (htail 46 hhead).1 rfl
    simp [parseFraction, hpoint, renderFraction, hasNonzeroDigit]
  | some ds =>
    obtain ⟨hne, hlt⟩ := hf ds rfl
    have hpoint : bytes[19]? = some 46 := by
      rw [← List.head?_drop, hdrop]
      rfl
    have hrest : bytes.drop 20 = ds.map digit ++ tail := by
      have := congrArg (List.drop 1) hdrop
      rwa [List.drop_drop] at this
    -- the run ends where the fraction does, at the zone designator
    have hdigits : (bytes.drop 20).takeWhile isAsciiDigit = ds.map digit := by
      have hall : ∀ b ∈ ds.map digit, isAsciiDigit b = true := by
        intro b hb
        obtain ⟨d, hd, rfl⟩ := List.mem_map.mp hb
        exact isAsciiDigit_iff.mpr ⟨d, hlt d hd, rfl⟩
      rw [hrest, List.takeWhile_append_of_pos hall]
      cases tail with
      | nil => simp
      | cons b rest => simp [(htail b rfl).2]
    simp only [parseFraction, if_pos hpoint, hdigits, List.map_eq_nil_iff, if_neg hne,
      any_nonzero_digits hlt, hasNonzeroDigit, renderFraction, List.length_cons, List.length_map]
    congr 2
    omega

/-! ### The zone designator -/

/-- A zone opens with neither a dot nor a digit. -/
theorem zone_head_render (z : Zone) :
    ∀ b, z.render.head? = some b → b ≠ 46 ∧ isAsciiDigit b = false := by
  intro b h
  cases z with
  | utc lower => cases lower <;> obtain rfl := Option.some.inj h <;> decide
  | numeric ahead hour minute => cases ahead <;> obtain rfl := Option.some.inj h <;> decide

/-- The accepted offsets are the rendered zones. -/
theorem parseOffset_eq_ok (err : String → Error) {bytes : Bytes} {pos pos' : ℕ} {offset : ℤ} :
    parseOffset err bytes pos = .ok (pos', offset) ↔
      ∃ z : Zone, z.Valid ∧ bytes.drop pos = z.render ++ bytes.drop pos' ∧
        pos' = pos + z.render.length ∧ offset = z.offset := by
  constructor
  · intro h
    simp only [parseOffset] at h
    split at h
    · simp at h
    rename_i b hb
    have hfirst := getElem?_eq_some_drop.mp hb
    split at h
    · rename_i hutc
      simp only [Except.ok.injEq, Prod.mk.injEq] at h
      obtain ⟨rfl, rfl⟩ := h
      -- `Z` or `z`
      rcases hutc with rfl | rfl
      · exact ⟨.utc false, trivial, hfirst, rfl, rfl⟩
      · exact ⟨.utc true, trivial, hfirst, rfl, rfl⟩
    · split at h
      · rename_i hsign
        simp only [bind_eq_ok, okOr_eq_ok, ensure_eq_ok, pure_eq_ok, Except.ok.injEq,
          Prod.mk.injEq, readDigits_eq_some, getElem?_eq_some_drop] at h
        obtain ⟨hour, ⟨-, hhour⟩, _, hcolon, minute, ⟨-, hminute⟩, _, hrange, rfl, rfl⟩ := h
        rw [hhour, hcolon, hminute] at hfirst
        rcases hsign with rfl | rfl
        · exact ⟨.numeric true hour minute, hrange, by simpa [Zone.render] using hfirst,
            by simp [Zone.render], by simp [Zone.offset]⟩
        · exact ⟨.numeric false hour minute, hrange, by simpa [Zone.render] using hfirst,
            by simp [Zone.render], by simp [Zone.offset]⟩
      · simp at h
  · intro h
    obtain ⟨z, hz, hdrop, rfl, rfl⟩ := h
    cases z with
    | utc lower =>
      have hb := getElem?_eq_some_drop.mpr hdrop
      cases lower <;> simp [parseOffset, hb, Zone.render, Zone.offset]
    | numeric ahead hour minute =>
      have hb : bytes[pos]? = some (if ahead then 43 else 45) := by
        rw [← List.head?_drop, hdrop]; rfl
      -- the suffix of the text at each position that is read
      have hafter : bytes.drop (pos + 1) = pad 2 hour ++ (58 :: (pad 2 minute ++
          bytes.drop (pos + 6))) := by
        have hdrop' := congrArg (List.drop 1) hdrop
        simpa [Zone.render, List.drop_drop] using hdrop'
      have hcolon : bytes.drop (pos + 3) = 58 :: (pad 2 minute ++ bytes.drop (pos + 6)) := by
        have hdrop' := congrArg (List.drop 2) hafter
        rwa [List.drop_drop, List.drop_left' (length_pad 2 hour)] at hdrop'
      have hlast : bytes.drop (pos + 4) = pad 2 minute ++ bytes.drop (pos + 6) := by
        have hdrop' := congrArg (List.drop 1) hcolon
        rwa [List.drop_drop, List.drop_one, List.tail_cons] at hdrop'
      have hhour : readDigits bytes (pos + 1) 2 = some hour :=
        readDigits_eq_some.mpr ⟨by have := hz.1; omega, by rw [hafter, hcolon]⟩
      have hminute : readDigits bytes (pos + 4) 2 = some minute :=
        readDigits_eq_some.mpr ⟨by have := hz.2; omega, hlast⟩
      have hpoint : bytes[pos + 3]? = some 58 := by
        rw [← List.head?_drop, hcolon]; rfl
      have hrange : hour ≤ 23 ∧ minute ≤ 59 := hz
      cases ahead <;>
        simp [parseOffset, hb, hhour, hminute, hpoint, ensure, hrange, Zone.render, Zone.offset]

/-! ### The calendar -/

/-- `is_leap_year` is the calendar's rule. -/
theorem isLeapYear_iff {year : ℕ} : isLeapYear year = true ↔ IsLeap year := by
  unfold isLeapYear IsLeap
  simp only [Bool.or_eq_true, Bool.and_eq_true, beq_iff_eq, bne_iff_ne, ne_eq]
  omega

/-- `days_in_month` is the calendar's table. -/
theorem daysInMonth_eq {year month : ℕ} (h : 1 ≤ month ∧ month ≤ 12) :
    daysInMonth year month = monthLength year month := by
  obtain ⟨h1, h12⟩ := h
  interval_cases month <;> simp [daysInMonth, monthLength, isLeapYear_iff]

/-- The truncating division of the source is a floor. -/
theorem era_eq_floor (y : ℤ) : (if y ≥ 0 then y else y - 399).tdiv 400 = y / 400 := by
  split
  · rw [Int.tdiv_eq_ediv_of_nonneg (by omega)]
  · rw [show y - 399 = -(399 - y) by omega, Int.neg_tdiv, Int.tdiv_eq_ediv_of_nonneg (by omega)]
    omega

/-- The days of whole years counted from March, in closed form. -/
theorem marchYears (y : ℤ) :
    y / 400 * 146097 + ((y - y / 400 * 400) * 365 + (y - y / 400 * 400) / 4
      - (y - y / 400 * 400) / 100) = 365 * y + y / 4 - y / 100 + y / 400 := by
  omega

/-- The days of the months before `month` in a year that starts in March. -/
def daysBeforeMonthFromMarch (month : ℕ) : ℤ := (153 * (((month : ℤ) + 9) % 12) + 2) / 5

/-- The day number, counted in years that begin in March. -/
theorem daysFromCivil_eq_march {year : ℤ} {month day : ℕ} :
    daysFromCivil year month day =
      let y : ℤ := if month ≤ 2 then year - 1 else year
      365 * y + y / 4 - y / 100 + y / 400 + daysBeforeMonthFromMarch month + day - 719469 := by
  simp only [daysFromCivil, era_eq_floor]
  generalize (if month ≤ 2 then year - 1 else year) = y
  have hyears := marchYears y
  have hmonth : daysBeforeMonthFromMarch month = (153 * ((month : ℤ) + 9).tmod 12 + 2).tdiv 5 := by
    rw [Int.tmod_eq_emod_of_nonneg (by omega), Int.tdiv_eq_ediv_of_nonneg (by omega)]
    rfl
  rw [Int.tdiv_eq_ediv_of_nonneg (show 0 ≤ y - y / 400 * 400 by omega),
    Int.tdiv_eq_ediv_of_nonneg (show 0 ≤ y - y / 400 * 400 by omega), ← hmonth]
  omega

/-- Counted from March, the leap day comes last. -/
theorem daysThroughMonth_eq {year : ℤ} {month : ℕ} (hm : 1 ≤ month ∧ month ≤ 12) :
    (Calendar.daysThroughMonth year (month - 1) : ℤ) = daysBeforeMonthFromMarch month +
      if month ≤ 2 then -306 else if Calendar.IsLeap year then 60 else 59 := by
  obtain ⟨h1, h12⟩ := hm
  by_cases hleap : Calendar.IsLeap year <;> interval_cases month <;>
    simp [Calendar.daysThroughMonth, Calendar.monthLength, hleap, daysBeforeMonthFromMarch]

/-- `days_from_civil` counts from 1970-01-01, which is day 719528. -/
theorem daysFromCivil_eq {year : ℤ} {month day : ℕ} (hm : 1 ≤ month ∧ month ≤ 12) :
    daysFromCivil year month day =
      Calendar.daysBeforeYear year + Calendar.daysThroughMonth year (month - 1) + (day - 1)
        - 719528 := by
  rw [daysFromCivil_eq_march, daysThroughMonth_eq hm]
  unfold Calendar.daysBeforeYear
  generalize daysBeforeMonthFromMarch month = beforeMonth
  -- January and February belong to the year before
  by_cases hfeb : month ≤ 2
  · simp only [if_pos hfeb]
    omega
  · simp only [if_neg hfeb]
    split
    · rename_i hleap
      unfold Calendar.IsLeap at hleap
      omega
    · rename_i hleap
      unfold Calendar.IsLeap at hleap
      omega

/-! ### The whole timestamp -/

/-- The parser's sum of days and seconds is the stamp's whole seconds. -/
theorem unixTime_eq {st : Stamp} (hst : st.Valid) :
    daysFromCivil st.year st.month st.day * 86400
        + ((st.hour : ℤ) * 3600 + st.minute * 60 + st.second) - st.zone.offset
      = st.wholeSeconds := by
  have hdays : daysFromCivil st.year st.month st.day =
      (dayNumber st.year st.month st.day : ℤ) - epochDay := by
    have hday := hst.day.1
    rw [daysFromCivil_eq hst.month, daysBeforeYear_cast, daysThroughMonth_cast, epochDay_eq,
      dayNumber]
    omega
  rw [hdays]
  rfl

/-- The parser's last step: the sum, and one second more for a fraction. -/
theorem ceil_instant_eq {st : Stamp} (hst : st.Valid) :
    (if hasNonzeroDigit st.fraction then
      daysFromCivil st.year st.month st.day * 86400
        + ((st.hour : ℤ) * 3600 + st.minute * 60 + st.second) - st.zone.offset + 1
    else daysFromCivil st.year st.month st.day * 86400
        + ((st.hour : ℤ) * 3600 + st.minute * 60 + st.second) - st.zone.offset) = ⌈st.instant⌉ := by
  rw [unixTime_eq hst, Stamp.ceil_instant hst]
  by_cases hfraction : st.HasFraction
  · rw [if_pos hfraction, if_pos (hasNonzeroDigit_iff.mpr hfraction)]
  · rw [if_neg hfraction, if_neg fun h => hfraction (hasNonzeroDigit_iff.mp h)]

/-- The result is the spelled instant, rounded up. -/
theorem parseRfc3339_sound {field : String} {s : Str} {t : ℤ} (h : parseRfc3339 field s = .ok t) :
    ∃ q : ℚ, Spells s q ∧ t = ⌈q⌉ := by
  simp only [parseRfc3339, expectByte, bind_eq_ok, okOr_eq_ok, ensure_eq_ok, pure_eq_ok,
    Except.ok.injEq, Prod.exists, readDigits_eq_some, getElem?_eq_some_drop] at h
  obtain ⟨_, hlen, year, ⟨hyear, h0⟩, _, h4, month, ⟨-, h5⟩, _, h7, day, ⟨-, h8⟩, _, h10, hour,
    ⟨-, h11⟩, _, h13, minute, ⟨-, h14⟩, _, h16, second, ⟨-, h17⟩, _, hmonth, _, hday, _, hhour, _,
    hminute, _, hsecond, pos, nonzero, hfrac, pos', offset, hzone, _, hend, rfl⟩ := h
  obtain ⟨f, hf, h19, rfl⟩ := parseFraction_sound hfrac
  obtain ⟨z, hz, hpos, -, rfl⟩ := (parseOffset_eq_ok _).mp hzone
  -- the separator's case is a field of the stamp
  obtain ⟨lower, hlower⟩ : ∃ lower : Bool,
      (utf8 s).drop 10 = (if lower then 116 else 84) :: (utf8 s).drop 11 := by
    rcases h10 with h | h
    · exact ⟨false, h⟩
    · exact ⟨true, h⟩
  let st : Stamp := ⟨year, month, day, lower, hour, minute, second, f, z⟩
  have hst : st.Valid :=
    { year := Nat.le_of_lt_succ hyear
      month := hmonth
      day := daysInMonth_eq hmonth ▸ hday
      hour := hhour
      minute := hminute
      second := hsecond
      fraction := hf
      zone := hz }
  refine ⟨st.instant, ⟨st, hst, ?_, rfl⟩, ?_⟩
  · -- each equation rewrites the tail of the one before
    have htail : (utf8 s).drop pos' = [] := by rw [hend, List.drop_length]
    rw [htail, List.append_nil] at hpos
    calc utf8 s = (utf8 s).drop 0 := rfl
      _ = st.render := by
        rw [h0, h4, h5, h7, h8, hlower, h11, h13, h14, h16, h17, h19, hpos]
        rfl
  · exact ceil_instant_eq hst

/-- A zone is at least one byte. -/
theorem length_render_pos (z : Zone) : 0 < z.render.length := by
  cases z <;> simp [Zone.render]

/-- No month has more than 31 days. -/
theorem monthLength_le (year month : ℕ) : monthLength year month ≤ 31 := by
  unfold monthLength
  split <;> split <;> omega

/-- A valid stamp's text is read as its instant, rounded up. -/
theorem parseRfc3339_render {field : String} {s : Str} {st : Stamp} (hst : st.Valid)
    (hrender : utf8 s = st.render) : parseRfc3339 field s = .ok ⌈st.instant⌉ := by
  -- the suffix of the text at each position the parser looks at
  have h0 : (utf8 s).drop 0 = _ := hrender
  have h4 := drop_pad h0
  have h5 := drop_byte h4
  have h7 := drop_pad h5
  have h8 := drop_byte h7
  have h10 := drop_pad h8
  have h11 := drop_byte h10
  have h13 := drop_pad h11
  have h14 := drop_byte h13
  have h16 := drop_pad h14
  have h17 := drop_byte h16
  have h19 := drop_pad h17
  have hsep : (utf8 s)[10]? = some 84 ∨ (utf8 s)[10]? = some 116 := by
    have hbyte := getElem?_of_drop h10
    cases hl : st.lower
    · exact .inl (by rw [hbyte, hl]; rfl)
    · exact .inr (by rw [hbyte, hl]; rfl)
  have hfrac := parseFraction_complete (fun reason => .parse (.rfc3339 field reason))
    hst.fraction h19 (zone_head_render st.zone)
  have hpos : (utf8 s).drop (19 + (renderFraction st.fraction).length) = st.zone.render := by
    rw [← List.drop_drop, h19, List.drop_left]
  have hzonePos := length_render_pos st.zone
  have hlength : (utf8 s).length = 19 + (renderFraction st.fraction).length
      + st.zone.render.length := by
    have hdrop := congrArg List.length h19
    rw [List.length_drop, List.length_append] at hdrop
    omega
  have hzone := (parseOffset_eq_ok fun reason => .parse (.rfc3339 field reason)).mpr
    ⟨st.zone, hst.zone, by rw [hpos, ← hlength, List.drop_length, List.append_nil], rfl, rfl⟩
  have hlen : 20 ≤ (utf8 s).length := by omega
  -- every field fits its digits
  have hyear := hst.year
  have hmonth := hst.month
  have hmonthLength := monthLength_le st.year st.month
  have hday := hst.day
  have hhour := hst.hour
  have hminute := hst.minute
  have hsecond := hst.second
  simp only [parseRfc3339, expectByte, bind_eq_ok, okOr_eq_ok, ensure_eq_ok, pure_eq_ok,
    Except.ok.injEq, Prod.exists]
  exact ⟨(), hlen, _, readDigits_of_drop h0 (by omega), (), getElem?_of_drop h4,
    _, readDigits_of_drop h5 (by omega), (), getElem?_of_drop h7,
    _, readDigits_of_drop h8 (by omega), (), hsep,
    _, readDigits_of_drop h11 (by omega), (), getElem?_of_drop h13,
    _, readDigits_of_drop h14 (by omega), (), getElem?_of_drop h16,
    _, readDigits_of_drop h17 (by omega), (), hmonth, (), (daysInMonth_eq hmonth).symm ▸ hday,
    (), hhour, (), hminute, (), hsecond, _, _, hfrac, _, _, hzone, (), hlength.symm,
    ceil_instant_eq hst⟩

/-- **`parseRfc3339`.**  The accepted texts are exactly the RFC 3339 date-times of a date that
    exists, and the value is their instant rounded up to whole seconds. -/
theorem parseRfc3339_eq_ok {field : String} {s : Str} {t : ℤ} :
    parseRfc3339 field s = .ok t ↔ ∃ q : ℚ, Spells s q ∧ t = ⌈q⌉ := by
  constructor
  · exact parseRfc3339_sound
  · intro h
    obtain ⟨_, ⟨st, hst, hrender, rfl⟩, rfl⟩ := h
    exact parseRfc3339_render hst hrender

end AttestationVerify
