import AttestationVerify.Wire.JsonText

namespace Wire.GoJson

/-!
# JSON as Go prints it

`encoding/json.Marshal` of Go 1.22 and later, for strings, slices and structs: compact, members in
the order of the struct's fields, and strings escaped so that the text may stand in HTML.

* `string`, `array`, `object`, `omitEmpty` — the printed values;
* `string_of_not`, `length_quote_lt` — a string is printed as `JsonText.quote` prints it when it has
  no character that HTML or JavaScript reads, and longer when it has one.
-/

/-- One character inside a string, as `appendString` with `escapeHTML` writes it. -/
def escapeChar (c : Char) : Str :=
  if c = '\\' ∨ c = '"' then ['\\', c]
  else if c.toNat = 8 then ['\\', 'b']
  else if c.toNat = 12 then ['\\', 'f']
  else if c.toNat = 10 then ['\\', 'n']
  else if c.toNat = 13 then ['\\', 'r']
  else if c.toNat = 9 then ['\\', 't']
  else if c.toNat < 32 ∨ c = '<' ∨ c = '>' ∨ c = '&' then
    ['\\', 'u', '0', '0', Hex.digit (c.toNat / 16), Hex.digit (c.toNat % 16)]
  else if c.toNat = 0x2028 ∨ c.toNat = 0x2029 then
    ['\\', 'u', '2', '0', '2', Hex.digit (c.toNat % 16)]
  else [c]

/-- A text between its quotes, escaped. -/
def escape (s : Str) : Str := s.flatMap escapeChar

/-- A text in quotes. -/
def string (s : Str) : Str := '"' :: (escape s ++ ['"'])

/-- A slice of printed items. -/
def array (items : List Str) : Str := '[' :: ([','].intercalate items ++ [']'])

/-- A struct of names and printed values. -/
def object (members : List (Str × Str)) : Str :=
  '\x7b' :: ([','].intercalate (members.map fun m => string m.1 ++ ':' :: m.2) ++ ['\x7d'])

/-- A string field tagged `omitempty`. -/
def omitEmpty (name s : Str) : List (Str × Str) := if s = [] then [] else [(name, string s)]

/-! ### Where the two printers agree -/

/-- The characters escaped for the sake of HTML and JavaScript. -/
def IsHtmlSensitive (c : Char) : Prop :=
  c = '<' ∨ c = '>' ∨ c = '&' ∨ c.toNat = 0x2028 ∨ c.toNat = 0x2029

instance (c : Char) : Decidable (IsHtmlSensitive c) :=
  inferInstanceAs (Decidable (_ ∨ _ ∨ _ ∨ _ ∨ _))

/-- A character that HTML does not care for is escaped as everywhere. -/
theorem escapeChar_of_not {c : Char} (h : ¬ IsHtmlSensitive c) :
    escapeChar c = JsonText.escapeChar c := by
  simp only [IsHtmlSensitive, not_or] at h
  obtain ⟨hlt, hgt, hamp, hline, hparagraph⟩ := h
  unfold escapeChar JsonText.escapeChar
  by_cases hquote : c = '"'
  · subst hquote; rfl
  by_cases hbackslash : c = '\\'
  · subst hbackslash; rfl
  -- the short escapes are the same ones, in another order
  simp only [hquote, hbackslash, hlt, hgt, hamp, hline, hparagraph, or_self, or_false, if_false]
  split_ifs <;> first | rfl | omega

/-- A character that HTML cares for takes more room. -/
theorem length_escapeChar_lt {c : Char} (h : IsHtmlSensitive c) :
    (JsonText.escapeChar c).length < (escapeChar c).length := by
  rcases h with rfl | rfl | rfl | h | h
  · decide
  · decide
  · decide
  · rw [JsonText.char_eq_ofNat h]
    decide
  · rw [JsonText.char_eq_ofNat h]
    decide

/-- A text that HTML does not care for is escaped as everywhere. -/
theorem escape_of_not {s : Str} (h : ∀ c ∈ s, ¬ IsHtmlSensitive c) : escape s = JsonText.escape s :=
  List.flatMap_congr fun c hc => escapeChar_of_not (h c hc)

/-- Go's escapes make no text shorter. -/
theorem length_escape_le (s : Str) : (JsonText.escape s).length ≤ (escape s).length := by
  induction s with
  | nil => exact Nat.le_refl 0
  | cons c s ih =>
    rw [JsonText.escape, escape, List.flatMap_cons, List.flatMap_cons, List.length_append,
      List.length_append]
    refine Nat.add_le_add ?_ ih
    by_cases hc : IsHtmlSensitive c
    · exact (length_escapeChar_lt hc).le
    · rw [escapeChar_of_not hc]

/-- A sensitive character makes the text longer. -/
theorem length_escape_lt {s : Str} {c : Char} (hc : c ∈ s) (h : IsHtmlSensitive c) :
    (JsonText.escape s).length < (escape s).length := by
  obtain ⟨before, after, rfl⟩ := List.append_of_mem hc
  have hbefore := length_escape_le before
  have hafter := length_escape_le after
  have hlt := length_escapeChar_lt h
  unfold JsonText.escape escape at *
  rw [List.flatMap_append, List.flatMap_append, List.flatMap_cons, List.flatMap_cons]
  simp only [List.length_append]
  omega

/-- A text that HTML does not care for is quoted as everywhere. -/
theorem string_of_not {s : Str} (h : ∀ c ∈ s, ¬ IsHtmlSensitive c) :
    string s = JsonText.quote s := by
  rw [string, JsonText.quote, escape_of_not h]

/-- Go's quoted text is no shorter. -/
theorem length_quote_le (s : Str) : (JsonText.quote s).length ≤ (string s).length := by
  have hescape := length_escape_le s
  simpa [JsonText.quote, string] using hescape

/-- Go's string is longer where there is a character that HTML cares for. -/
theorem length_quote_lt {s : Str} {c : Char} (hc : c ∈ s) (h : IsHtmlSensitive c) :
    (JsonText.quote s).length < (string s).length := by
  have hescape := length_escape_lt hc h
  simpa [JsonText.quote, string] using hescape

end Wire.GoJson
