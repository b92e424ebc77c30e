import AttestationVerify.Rekor.Verify
import AttestationVerify.Sct
import AttestationVerify.TimeChecked

namespace AttestationVerify

open Wire Wire.Machine Wire.Rfc3339

/-!
# Windows of spelled instants

A `validFor` window is built from two timestamps whose exact instants may lie between seconds, and
is compared with evidence in whole seconds.  Rounding the instants up loses nothing.

* `ValidityPeriod.fromRaw_eq_ok` — which pairs of texts make a window, and which window;
* `withinValidFor_ceil_iff` — whole seconds are within the rounded window exactly when they are
  within the exact one;
* `parseRfc3339_windows` — the parser on every text, and the two window tests.
-/

/-- The texts spell these instants. -/
structure RawValidFor.Spells (raw : RawValidFor) (start : ℚ) (end_ : Option ℚ) : Prop where
  start : Rfc3339.Spells raw.start start
  end_ : Option.Rel Rfc3339.Spells raw.end_ end_

/-- An optional timestamp is read as its instant, rounded up. -/
theorem optionMapM_parseRfc3339_eq_ok {field : String} {o : Option Str} {r : Option ℤ} :
    o.mapM (parseRfc3339 field) = .ok r ↔
      ∃ q, Option.Rel Rfc3339.Spells o q ∧ r = q.map Int.ceil := by
  rw [optionMapM_eq_ok]
  constructor
  · intro h
    cases h with
    | none => exact ⟨none, .none, rfl⟩
    | some hparse =>
      obtain ⟨q, hq, rfl⟩ := parseRfc3339_eq_ok.mp hparse
      exact ⟨some q, .some hq, rfl⟩
  · intro h
    obtain ⟨q, hq, rfl⟩ := h
    cases hq with
    | none => exact .none
    | some hspells => exact .some (parseRfc3339_eq_ok.mpr ⟨_, hspells, rfl⟩)

/-- The period holds both instants rounded up. -/
theorem ValidityPeriod.fromRaw_eq_ok {raw : RawValidFor} {window : ValidityPeriod} :
    ValidityPeriod.fromRaw raw = .ok window ↔
      ∃ start end_, raw.Spells start end_ ∧ window = ⟨⌈start⌉, end_.map Int.ceil⟩ := by
  simp only [ValidityPeriod.fromRaw, bind_eq_ok, pure_eq_ok, Except.ok.injEq, parseRfc3339_eq_ok,
    optionMapM_parseRfc3339_eq_ok]
  constructor
  · intro h
    obtain ⟨_, ⟨start, hstart, rfl⟩, _, ⟨end_, hend, rfl⟩, rfl⟩ := h
    exact ⟨start, end_, ⟨hstart, hend⟩, rfl⟩
  · intro h
    obtain ⟨start, end_, hspells, rfl⟩ := h
    exact ⟨_, ⟨start, hspells.start, rfl⟩, _, ⟨end_, hspells.end_, rfl⟩, rfl⟩

/-- A whole second is at or after an instant exactly when it is at or after the instant rounded
    up, and before both or neither. -/
theorem withinValidFor_ceil_iff {start : ℚ} {end_ : Option ℚ} (t : ℤ) :
    withinValidFor t ⟨⌈start⌉, end_.map Int.ceil⟩ ↔ ExactlyWithin start end_ t := by
  unfold withinValidFor ExactlyWithin
  -- the start rounds up to the first whole second it admits, and so does the end
  apply and_congr Int.ceil_le
  constructor
  · intro h e he
    exact Int.lt_ceil.mp (h ⌈e⌉ (Option.mem_map_of_mem _ he))
  · intro h z hz
    obtain ⟨e, he, rfl⟩ := Option.mem_map.mp hz
    exact Int.lt_ceil.mpr (h e he)

/-- `check_time_window` did not stop at the log key's window. -/
def PassesLogKeyTest (integratedTime : UInt64) (window : ValidityPeriod)
    (leafNotBefore leafNotAfter : ℤ) : Prop :=
  checkTimeWindow integratedTime window leafNotBefore leafNotAfter ≠
    .error (.timestamp .integratedTimeOutsideLogKeyValidity)

/-- Below `2 ^ 63` the conversion to a signed time does not wrap. -/
theorem passesLogKeyTest_iff {integratedTime : UInt64} {window : ValidityPeriod}
    {leafNotBefore leafNotAfter : ℤ} (h : integratedTime.toNat < 2 ^ 63) :
    PassesLogKeyTest integratedTime window leafNotBefore leafNotAfter ↔
      withinValidFor integratedTime.toNat window := by
  unfold PassesLogKeyTest checkTimeWindow
  dsimp only
  rw [ensure_of h, ok_bind]
  by_cases hwindow : withinValidFor integratedTime.toNat window
  · -- past the key's window only the certificate's is left, with an error of its own
    rw [ensure_of hwindow, ok_bind]
    apply iff_of_true _ hwindow
    intro herror
    cases (ensure_eq_error.mp herror).2
  · rw [ensure_not hwindow, error_bind]
    exact iff_of_false (fun hne => hne rfl) hwindow

/-- Both tests of a window against whole seconds decide by the exact instants. -/
structure TestsExactly (window : ValidityPeriod) (start : ℚ) (end_ : Option ℚ) : Prop where
  authority : ∀ t : ℤ, withinValidFor t window ↔ ExactlyWithin start end_ t
  logKey : ∀ (integratedTime : UInt64) (leafNotBefore leafNotAfter : ℤ),
    integratedTime.toNat < 2 ^ 63 →
      (PassesLogKeyTest integratedTime window leafNotBefore leafNotAfter ↔
        ExactlyWithin start end_ integratedTime.toNat)

/-- On whole seconds the rounded bounds test just as the instants do. -/
theorem testsExactly_ceil (start : ℚ) (end_ : Option ℚ) :
    TestsExactly ⟨⌈start⌉, end_.map Int.ceil⟩ start end_ where
  authority := withinValidFor_ceil_iff
  logKey := by
    intro integratedTime leafNotBefore leafNotAfter h
    rw [passesLogKeyTest_iff h, withinValidFor_ceil_iff]
    norm_cast

/-- **Timestamps and the windows they make.**  No text makes the parser panic; what it accepts are
    the RFC 3339 date-times of dates that exist, with their exact instant rounded up; and a window
    built from two of them accepts whole seconds exactly as its exact instants do. -/
theorem parseRfc3339_windows :
    (∀ usizeMax field s, (utf8 s).length ≤ usizeMax →
      Computes (parseRfc3339Checked usizeMax field s) (parseRfc3339 field s)) ∧
    (∀ field s t, parseRfc3339 field s = .ok t ↔ ∃ q : ℚ, Rfc3339.Spells s q ∧ t = ⌈q⌉) ∧
    (∀ raw window, ValidityPeriod.fromRaw raw = .ok window ↔
      ∃ start end_, raw.Spells start end_ ∧ window = ⟨⌈start⌉, end_.map Int.ceil⟩) ∧
    ∀ raw window start end_, ValidityPeriod.fromRaw raw = .ok window → raw.Spells start end_ →
      TestsExactly window start end_ := by
  refine ⟨?_, ?_, ?_, ?_⟩
  · intro usizeMax field s h
    exact computes_parseRfc3339 field h
  · intro field s t
    exact parseRfc3339_eq_ok
  · intro raw window
    exact ValidityPeriod.fromRaw_eq_ok
  · intro raw window start end_ h hspells
    -- the spelled instants determine the window
    obtain ⟨hstart, hend⟩ := ValidityPeriod.fromRaw_of_spells h hspells.start hspells.end_
    have hwindow : window = ⟨⌈start⌉, end_.map Int.ceil⟩ := by
      rw [← hstart, ← hend]
    rw [hwindow]
    exact testsExactly_ceil start end_

end AttestationVerify
