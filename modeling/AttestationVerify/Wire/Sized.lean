import AttestationVerify.Wire.Cursor
import AttestationVerify.Wire.Numeral
import AttestationVerify.Wire.Outcome

namespace Wire.Cursor

/-!
# Fields under a decimal length

A field is written as its length in bytes, a separator and its bytes.  What the field holds may look
like a length and a separator again: the length in front says where it ends.

* `takeLiteral`, `takeUntil`, `takeNumeral`, `takeSized` — the readers;
* `decodes_takeSized` — a sized field is read back, and nothing else is read as one.
-/

/-- The given bytes, taken off. -/
def takeLiteral (literal : Bytes) : Reader Unit Unit := fun cursor =>
  (okOr (stripPrefix literal cursor) ()).map fun rest => ((), rest)

/-- The bytes up to the separator, which is dropped. -/
def takeUntil (sep : UInt8) : Reader Unit Bytes := fun cursor => okOr (splitOnce sep cursor) ()

/-- A canonical decimal numeral up to the separator. -/
def takeNumeral (sep : UInt8) : Reader Unit ℕ := do
  let b ← takeUntil sep
  let digits ← liftM (okOr (fromUtf8 b) ())
  let n := Nat.ofDigitChars 10 digits 0
  liftM (ensure (digits = decimal n) ())
  pure n

/-- A field with its length in front. -/
def sized (sep : UInt8) (field : Bytes) : Bytes := utf8 (decimal field.length) ++ sep :: field

/-- A field taken by the length in front of it. -/
def takeSized (sep : UInt8) : Reader Unit Bytes := do
  let n ← takeNumeral sep
  takeExactly () n

/-- A literal stands for itself. -/
theorem decodes_takeLiteral (literal : Bytes) :
    Decodes (takeLiteral literal) (fun _ => literal) fun _ => True := by
  intro cursor u rest
  unfold takeLiteral
  cases hstrip : stripPrefix literal cursor with
  | none =>
    have hne : cursor ≠ literal ++ rest := by
      rw [ne_eq, ← stripPrefix_eq_some, hstrip]
      exact nofun
    simp [okOr, Except.map, hne]
  | some after =>
    obtain rfl := stripPrefix_eq_some.mp hstrip
    simp [okOr, Except.map]

/-- A text up to its separator is read without it. -/
theorem decodes_takeUntil (sep : UInt8) :
    Decodes (takeUntil sep) (fun b => b ++ [sep]) fun b => sep ∉ b := by
  intro cursor b rest
  rw [takeUntil, okOr_eq_ok, splitOnce_eq_some, and_comm, List.append_assoc,
    List.singleton_append]

/-- A separator that is the byte of a character other than a digit. -/
def Separates (sep : UInt8) : Prop :=
  ∃ c : Char, String.utf8EncodeChar c = [sep] ∧ c.isDigit = false

/-- A separator is in no number. -/
theorem Separates.not_mem {sep : UInt8} (h : Separates sep) (n : ℕ) :
    sep ∉ utf8 (decimal n) := by
  obtain ⟨c, hc, hdigit⟩ := h
  intro hmem
  obtain ⟨d, hd, hsep⟩ := List.mem_flatMap.mp hmem
  exact not_mem_decimal hdigit n (mem_utf8EncodeChar hc hsep ▸ hd)

/-- A number ends at its separator. -/
theorem decodes_takeNumeral {sep : UInt8} (hsep : Separates sep) :
    Decodes (takeNumeral sep) (fun n => utf8 (decimal n) ++ [sep]) fun _ => True := by
  intro cursor n rest
  rw [takeNumeral, (decodes_takeUntil sep).bind_eq_ok]
  simp only [bind_apply_eq_ok, lift_apply_eq_ok, pure_apply_eq_ok, okOr_eq_ok, ensure_eq_ok,
    fromUtf8_eq_some]
  constructor
  · rintro ⟨_, -, cursor', rfl, digits, _, ⟨rfl, rfl⟩, _, _, ⟨hdigits, rfl⟩, rfl, rfl⟩
    exact ⟨trivial, by rw [← hdigits]⟩
  · rintro ⟨-, rfl⟩
    have hvalue : Nat.ofDigitChars 10 (decimal n) 0 = n := Nat.ofDigitChars_ten_toDigits
    exact ⟨_, hsep.not_mem n, rest, rfl, decimal n, rest, ⟨rfl, rfl⟩, (), rest,
      ⟨by rw [hvalue], rfl⟩, hvalue, rfl⟩

/-- **A sized field is read back**, whatever it holds and whatever follows it. -/
theorem decodes_takeSized {sep : UInt8} (hsep : Separates sep) :
    Decodes (takeSized sep) (sized sep) fun _ => True := by
  intro cursor b rest
  rw [takeSized, (decodes_takeNumeral hsep).bind_eq_ok]
  constructor
  · rintro ⟨n, -, cursor', rfl, h⟩
    obtain ⟨rfl, rfl⟩ := (decodes_takeExactly () n _ _ _).mp h
    exact ⟨trivial, by simp [sized]⟩
  · rintro ⟨-, rfl⟩
    exact ⟨b.length, trivial, b ++ rest, by simp [sized],
      (decodes_takeExactly () b.length _ _ _).mpr ⟨rfl, rfl⟩⟩

end Wire.Cursor
