import AttestationVerify.Wire.Numeral

namespace Wire.JsonText

/-!
# JSON string literals

How a string is printed in compact JSON: quotes and backslashes escaped, the control characters
below U+0020 by their short escapes or as `\u00xx`, everything else as it is.

* `quote` — the literal;
* `quote_append_inj` — a literal and what follows it are determined by their concatenation, so a
  text put together from literals and fixed punctuation is read in one way only.

The second rests on `unescape`, which takes the first escaped character off a text.
-/

/-- One character inside a literal. -/
def escapeChar (c : Char) : Str :=
  if c = '"' then ['\\', '"']
  else if c = '\\' then ['\\', '\\']
  else if c.toNat = 8 then ['\\', 'b']
  else if c.toNat = 9 then ['\\', 't']
  else if c.toNat = 10 then ['\\', 'n']
  else if c.toNat = 12 then ['\\', 'f']
  else if c.toNat = 13 then ['\\', 'r']
  else if c.toNat < 32 then
    ['\\', 'u', '0', '0', Hex.digit (c.toNat / 16), Hex.digit (c.toNat % 16)]
  else [c]

/-- A text between its quotes, escaped. -/
def escape (s : Str) : Str := s.flatMap escapeChar

/-- A text in quotes. -/
def quote (s : Str) : Str := '"' :: (escape s ++ ['"'])

/-- A character that needs no escape. -/
def IsPlain (c : Char) : Prop := c ≠ '"' ∧ c ≠ '\\' ∧ 32 ≤ c.toNat

instance (c : Char) : Decidable (IsPlain c) := inferInstanceAs (Decidable (_ ∧ _ ∧ _))

/-- A plain character stands for itself. -/
theorem escapeChar_of_isPlain {c : Char} (h : IsPlain c) : escapeChar c = [c] := by
  obtain ⟨hquote, hbackslash, hcontrol⟩ := h
  unfold escapeChar
  rw [if_neg hquote, if_neg hbackslash, if_neg (by omega), if_neg (by omega), if_neg (by omega),
    if_neg (by omega), if_neg (by omega), if_neg (by omega)]

/-- A text of plain characters stands for itself. -/
theorem escape_of_isPlain {s : Str} (h : ∀ c ∈ s, IsPlain c) : escape s = s := by
  rw [escape, List.flatMap_congr fun c hc => escapeChar_of_isPlain (h c hc)]
  exact List.flatMap_singleton' s

/-- A text of plain characters stands for itself between quotes. -/
theorem quote_of_isPlain {s : Str} (h : ∀ c ∈ s, IsPlain c) : quote s = '"' :: (s ++ ['"']) := by
  rw [quote, escape_of_isPlain h]

/-! ### Reading one character back -/

/-- The character of a two-character escape. -/
def unescapeShort (c : Char) : Option Char :=
  if c = '"' then some '"'
  else if c = '\\' then some '\\'
  else if c = 'b' then some (Char.ofNat 8)
  else if c = 't' then some (Char.ofNat 9)
  else if c = 'n' then some (Char.ofNat 10)
  else if c = 'f' then some (Char.ofNat 12)
  else if c = 'r' then some (Char.ofNat 13)
  else none

/-- The first character of an escaped text, and the rest; `none` at the closing quote. -/
def unescape : Str → Option (Char × Str)
  | '\\' :: 'u' :: '0' :: '0' :: h :: l :: rest => do
    let x ← Hex.value h
    let y ← Hex.value l
    some (Char.ofNat (x * 16 + y), rest)
  | '\\' :: c :: rest => (unescapeShort c).map (·, rest)
  | c :: rest => if c = '"' then none else some (c, rest)
  | [] => none

/-- A character is told by its code. -/
theorem char_eq_ofNat {c : Char} {n : ℕ} (h : c.toNat = n) : c = Char.ofNat n := by
  rw [← h, Char.ofNat_toNat]

/-- A character is escaped by one letter, as a control character, or not at all. -/
theorem escapeChar_cases (c : Char) :
    (∃ d, escapeChar c = ['\\', d] ∧ unescapeShort d = some c) ∨
      (c.toNat < 32 ∧ escapeChar c =
        ['\\', 'u', '0', '0', Hex.digit (c.toNat / 16), Hex.digit (c.toNat % 16)]) ∨
      c ≠ '"' ∧ c ≠ '\\' ∧ ¬ c.toNat < 32 ∧ escapeChar c = [c] := by
  unfold escapeChar
  split
  · rename_i h
    exact .inl ⟨'"', rfl, by rw [h]; rfl⟩
  split
  · rename_i h
    exact .inl ⟨'\\', rfl, by rw [h]; rfl⟩
  split
  · rename_i h
    exact .inl ⟨'b', rfl, by rw [char_eq_ofNat h]; rfl⟩
  split
  · rename_i h
    exact .inl ⟨'t', rfl, by rw [char_eq_ofNat h]; rfl⟩
  split
  · rename_i h
    exact .inl ⟨'n', rfl, by rw [char_eq_ofNat h]; rfl⟩
  split
  · rename_i h
    exact .inl ⟨'f', rfl, by rw [char_eq_ofNat h]; rfl⟩
  split
  · rename_i h
    exact .inl ⟨'r', rfl, by rw [char_eq_ofNat h]; rfl⟩
  split
  · rename_i hcontrol
    exact .inr (.inl ⟨hcontrol, rfl⟩)
  · rename_i hquote hbackslash _ _ _ _ _ hcontrol
    exact .inr (.inr ⟨hquote, hbackslash, hcontrol, rfl⟩)

/-- The letters of the short escapes are neither that of the long ones nor a slash. -/
theorem ne_of_unescapeShort {c d : Char} (h : unescapeShort d = some c) : d ≠ 'u' ∧ d ≠ '/' := by
  constructor
  · rintro rfl
    cases h
  · rintro rfl
    cases h

/-- An escape is read back, whatever follows. -/
theorem unescape_escapeChar (c : Char) (rest : Str) :
    unescape (escapeChar c ++ rest) = some (c, rest) := by
  rcases escapeChar_cases c with ⟨d, hc, hshort⟩ | ⟨hcontrol, hc⟩ | ⟨hquote, hbackslash, -, hc⟩
  · rw [hc]
    change unescape ('\\' :: d :: rest) = _
    rw [unescape, hshort]
    · rfl
    · intro h l rest' hu
      exact absurd hu (ne_of_unescapeShort hshort).1
  · have hvalue : c.toNat / 16 * 16 + c.toNat % 16 = c.toNat := by omega
    simp [hc, unescape, Hex.value_digit (show c.toNat / 16 < 16 by omega),
      Hex.value_digit (show c.toNat % 16 < 16 by omega), hvalue]
  · rw [hc, List.singleton_append]
    unfold unescape
    split
    · rename_i heq
      exact absurd (List.cons.inj heq).1 hbackslash
    · rename_i heq
      exact absurd (List.cons.inj heq).1 hbackslash
    · rename_i heq
      obtain ⟨rfl, rfl⟩ := List.cons.inj heq
      exact if_neg hquote
    · rename_i heq
      cases heq

/-! ### Literals are delimited -/

theorem unescape_escape_nil (rest : Str) : unescape (escape [] ++ '"' :: rest) = none := rfl

/-- Of an escaped text, the first character is read and the rest is left. -/
theorem unescape_escape_cons (c : Char) (s rest : Str) :
    unescape (escape (c :: s) ++ rest) = some (c, escape s ++ rest) := by
  rw [escape, List.flatMap_cons, List.append_assoc, unescape_escapeChar]
  rfl

/-- An escaped text ends at its closing quote and nowhere else. -/
theorem escape_append_inj {s t r u : Str} (h : escape s ++ '"' :: r = escape t ++ '"' :: u) :
    s = t ∧ r = u := by
  -- the first character read back from both sides is the same, or both are over
  have hread := congrArg unescape h
  induction s generalizing t with
  | nil =>
    cases t with
    | nil => exact ⟨rfl, (List.cons.inj h).2⟩
    | cons d t =>
      rw [unescape_escape_nil, unescape_escape_cons] at hread
      cases hread
  | cons c s ih =>
    cases t with
    | nil =>
      rw [unescape_escape_nil, unescape_escape_cons] at hread
      cases hread
    | cons d t =>
      rw [unescape_escape_cons, unescape_escape_cons] at hread
      obtain ⟨rfl, hrest⟩ := Prod.mk.inj (Option.some.inj hread)
      obtain ⟨rfl, hr⟩ := ih hrest (congrArg unescape hrest)
      exact ⟨rfl, hr⟩

/-- **A literal is delimited.**  A text that starts with a string literal determines the string
    and the rest. -/
theorem quote_append_inj {s t r u : Str} (h : quote s ++ r = quote t ++ u) : s = t ∧ r = u := by
  simp only [quote, List.cons_append, List.append_assoc, List.cons.injEq, true_and,
    List.nil_append] at h
  exact escape_append_inj h

end Wire.JsonText
