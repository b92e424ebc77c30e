import AttestationVerify.Wire.JsonText

namespace Wire.JsonReader

open JsonText (unescapeShort escapeChar escape quote)

/-!
# Reading JSON text

RFC 8259 by recursive descent.  Numbers are kept as they are spelled, and the members of an object
as they stand in the text, repetitions included.

* `read` — the document a text is; `none` where it is not JSON;
* `readString_quote`, `readNumber_decimal` — what the printers write is read back, and the text
  after it left alone;
* `readMembers_more`, `readMembers_last` — compact objects, a member at a time.
-/

/-- What the reader makes of a text; a number is kept as it is written. -/
inductive Node
  | null
  | bool (b : Bool)
  | number (lexeme : Str)
  | string (s : Str)
  | array (items : List Node)
  | object (members : List (Str × Node))

/-- The first member of the name. -/
def Node.member (key : Str) : Node → Option Node
  | .object members => members.lookup key
  | _ => none

/-- The text of a string. -/
def Node.asString : Node → Option Str
  | .string s => some s
  | _ => none

/-- The digits of a number. -/
def Node.asNumber : Node → Option Str
  | .number lexeme => some lexeme
  | _ => none

/-- JSON's white space. -/
def isSpace (c : Char) : Bool := c = ' ' || c = '\t' || c = '\n' || c = '\r'

/-- White space is skipped before a value and around the punctuation. -/
def skipSpace (s : Str) : Str := s.dropWhile isSpace

/-! ### Strings -/

/-- The code unit of four hexadecimal digits. -/
def readHex4 : Str → Option (ℕ × Str)
  | a :: b :: c :: d :: rest => do
    let w ← Hex.value a
    let x ← Hex.value b
    let y ← Hex.value c
    let z ← Hex.value d
    some (w * 4096 + x * 256 + y * 16 + z, rest)
  | _ => none

/-- The character an escape stands for, after its backslash.  Surrogates come in pairs. -/
def readEscape : Str → Option (Char × Str)
  | 'u' :: digits => do
    let (high, rest) ← readHex4 digits
    if 0xDC00 ≤ high ∧ high < 0xE000 then none
    else if 0xD800 ≤ high ∧ high < 0xDC00 then do
      let (low, rest) ← (stripPrefix ['\\', 'u'] rest).bind readHex4
      if 0xDC00 ≤ low ∧ low < 0xE000 then
        some (Char.ofNat (0x10000 + (high - 0xD800) * 0x400 + (low - 0xDC00)), rest)
      else none
    else some (Char.ofNat high, rest)
  | '/' :: rest => some ('/', rest)
  | c :: rest => (unescapeShort c).map (·, rest)
  | [] => none

/-- The characters up to the closing quote; `fuel` bounds their number. -/
def readChars : ℕ → Str → Option (Str × Str)
  | 0, _ => none
  | fuel + 1, s =>
    match s with
    | [] => none
    | '"' :: rest => some ([], rest)
    | '\\' :: rest => do
      let (c, rest) ← readEscape rest
      let (cs, rest) ← readChars fuel rest
      some (c :: cs, rest)
    | c :: rest =>
      if c.toNat < 32 then none
      else do
        let (cs, rest) ← readChars fuel rest
        some (c :: cs, rest)

/-- A quoted text, with what is left. -/
def readString (s : Str) : Option (Str × Str) :=
  (stripPrefix ['"'] s).bind fun rest => readChars (rest.length + 1) rest

/-! ### Numbers -/

/-- One or more digits. -/
def readDigits (s : Str) : Option (Str × Str) :=
  let digits := s.takeWhile Char.isDigit
  if digits = [] then none else some (digits, s.drop digits.length)

/-- No integer part has a leading zero. -/
def readInteger (s : Str) : Option (Str × Str) := do
  let (digits, rest) ← readDigits s
  if digits.head? = some '0' ∧ digits ≠ ['0'] then none else some (digits, rest)

/-- The fraction of a number, where there is one. -/
def readFraction (s : Str) : Option (Str × Str) :=
  match s with
  | '.' :: rest => do
    let (digits, rest) ← readDigits rest
    some ('.' :: digits, rest)
  | _ => some ([], s)

/-- The exponent of a number, where there is one. -/
def readExponent (s : Str) : Option (Str × Str) :=
  match s with
  | [] => some ([], [])
  | e :: rest =>
    if e = 'e' ∨ e = 'E' then do
      let sign := rest.head?.toList.filter fun c => c = '+' ∨ c = '-'
      let (digits, rest) ← readDigits (rest.drop sign.length)
      some (e :: sign ++ digits, rest)
    else some ([], s)

/-- A number as it is written. -/
def readNumber (s : Str) : Option (Str × Str) := do
  let sign := s.head?.toList.filter fun c => c = '-'
  let (integer, rest) ← readInteger (s.drop sign.length)
  let (fraction, rest) ← readFraction rest
  let (exponent, rest) ← readExponent rest
  some (sign ++ integer ++ fraction ++ exponent, rest)

/-! ### Documents -/

mutual

/-- A value without white space before it; `fuel` bounds the depth and the number of items. -/
def readValue : ℕ → Str → Option (Node × Str)
  | 0, _ => none
  | fuel + 1, s =>
    match s with
    | 'n' :: 'u' :: 'l' :: 'l' :: rest => some (.null, rest)
    | 't' :: 'r' :: 'u' :: 'e' :: rest => some (.bool true, rest)
    | 'f' :: 'a' :: 'l' :: 's' :: 'e' :: rest => some (.bool false, rest)
    | '"' :: _ => (readString s).map fun p => (.string p.1, p.2)
    | '[' :: rest =>
      match skipSpace rest with
      | ']' :: rest => some (.array [], rest)
      | rest => (readItems fuel rest).map fun p => (.array p.1, p.2)
    | '\x7b' :: rest =>
      match skipSpace rest with
      | '\x7d' :: rest => some (.object [], rest)
      | rest => (readMembers fuel rest).map fun p => (.object p.1, p.2)
    | _ => (readNumber s).map fun p => (.number p.1, p.2)

/-- The items of an array that is not empty, and the bracket after them. -/
def readItems : ℕ → Str → Option (List Node × Str)
  | 0, _ => none
  | fuel + 1, s => do
    let (item, rest) ← readValue fuel (skipSpace s)
    match skipSpace rest with
    | ',' :: rest => (readItems fuel rest).map fun p => (item :: p.1, p.2)
    | ']' :: rest => some ([item], rest)
    | _ => none

/-- The members of an object that is not empty, and the brace after them. -/
def readMembers : ℕ → Str → Option (List (Str × Node) × Str)
  | 0, _ => none
  | fuel + 1, s => do
    let (key, rest) ← readString (skipSpace s)
    let rest ← stripPrefix [':'] (skipSpace rest)
    let (value, rest) ← readValue fuel (skipSpace rest)
    match skipSpace rest with
    | ',' :: rest => (readMembers fuel rest).map fun p => ((key, value) :: p.1, p.2)
    | '\x7d' :: rest => some ([(key, value)], rest)
    | _ => none

end

/-- The document a text is, white space around it aside. -/
def read (s : Str) : Option Node := do
  let (node, rest) ← readValue (s.length + 1) (skipSpace s)
  if skipSpace rest = [] then some node else none

/-! ### Strings are read back -/

/-- A control character is read back from its code unit. -/
theorem readEscape_control {n : ℕ} (hn : n < 32) (rest : Str) :
    readEscape ('u' :: '0' :: '0' :: Hex.digit (n / 16) :: Hex.digit (n % 16) :: rest) =
      some (Char.ofNat n, rest) := by
  have hzero : Hex.value '0' = some 0 := by decide
  have hvalue : n / 16 * 16 + n % 16 = n := by omega
  -- a control character is no surrogate
  have hlow : ¬ (0xDC00 ≤ n ∧ n < 0xE000) := by omega
  have hhigh : ¬ (0xD800 ≤ n ∧ n < 0xDC00) := by omega
  simp [readEscape, readHex4, hzero, Hex.value_digit (show n / 16 < 16 by omega),
    Hex.value_digit (show n % 16 < 16 by omega), hvalue, hlow, hhigh]

/-- A plain character is read as itself. -/
theorem readChars_plain (fuel : ℕ) {c : Char} (hquote : c ≠ '"') (hbackslash : c ≠ '\\')
    (hcontrol : ¬ c.toNat < 32) (rest : Str) :
    readChars (fuel + 1) (c :: rest) = (readChars fuel rest).map fun p => (c :: p.1, p.2) := by
  conv_lhs => unfold readChars
  split
  · rename_i heq; cases heq
  · rename_i heq; exact absurd (List.cons.inj heq).1 hquote
  · rename_i heq; exact absurd (List.cons.inj heq).1 hbackslash
  · rename_i heq
    obtain ⟨rfl, rfl⟩ := List.cons.inj heq
    rw [if_neg hcontrol]
    cases readChars fuel rest <;> rfl

/-- One printed character is read as one. -/
theorem readChars_escapeChar (fuel : ℕ) (c : Char) (rest : Str) :
    readChars (fuel + 1) (escapeChar c ++ rest) =
      (readChars fuel rest).map fun p => (c :: p.1, p.2) := by
  have hescaped {escaped : Str} (hread : readEscape escaped = some (c, rest)) :
      readChars (fuel + 1) ('\\' :: escaped) =
        (readChars fuel rest).map fun p => (c :: p.1, p.2) := by
    simp only [readChars, hread, Option.bind_eq_bind, Option.bind_some]
    cases readChars fuel rest <;> rfl
  rcases JsonText.escapeChar_cases c with
    ⟨d, hc, hshort⟩ | ⟨hcontrol, hc⟩ | ⟨hquote, hbackslash, hcontrol, hc⟩
  · rw [hc]
    apply hescaped
    obtain ⟨hu, hslash⟩ := JsonText.ne_of_unescapeShort hshort
    change readEscape (d :: rest) = _
    rw [readEscape.eq_3 _ _ hu hslash, hshort]
    rfl
  · have hread := readEscape_control hcontrol rest
    rw [Char.ofNat_toNat] at hread
    rw [hc]
    exact hescaped hread
  · rw [hc]
    exact readChars_plain fuel hquote hbackslash hcontrol rest

/-- An escaped text is read up to its closing quote. -/
theorem readChars_escape {fuel : ℕ} {s : Str} (h : s.length < fuel) (rest : Str) :
    readChars fuel (escape s ++ '"' :: rest) = some (s, rest) := by
  induction s generalizing fuel with
  | nil =>
    obtain ⟨fuel, rfl⟩ := Nat.exists_eq_add_one_of_ne_zero (Nat.ne_of_gt h)
    rfl
  | cons c s ih =>
    obtain ⟨fuel, rfl⟩ := Nat.exists_eq_add_one_of_ne_zero (Nat.ne_of_gt (Nat.zero_lt_of_lt h))
    rw [escape, List.flatMap_cons, List.append_assoc, readChars_escapeChar]
    change (readChars fuel (escape s ++ '"' :: rest)).map _ = _
    rw [ih (Nat.lt_of_succ_lt_succ h)]
    rfl

/-- An escaped text is no shorter than what it stands for. -/
theorem length_le_escape (s : Str) : s.length ≤ (escape s).length := by
  have hone (c : Char) : 1 ≤ (escapeChar c).length := by
    rcases JsonText.escapeChar_cases c with ⟨d, hc, -⟩ | ⟨-, hc⟩ | ⟨-, -, -, hc⟩
    all_goals simp [hc]
  induction s with
  | nil => exact Nat.le_refl 0
  | cons c s ih =>
    rw [escape, List.flatMap_cons, List.length_append, List.length_cons]
    exact (Nat.add_comm _ _).trans_le (Nat.add_le_add (hone c) ih)

/-- A quoted text is read back. -/
theorem readString_quote (s rest : Str) : readString (quote s ++ rest) = some (s, rest) := by
  have hlength := length_le_escape s
  have hfuel : s.length < (escape s ++ '"' :: rest).length + 1 := by
    rw [List.length_append]
    omega
  have hsplit : quote s ++ rest = ['"'] ++ (escape s ++ '"' :: rest) := by simp [quote]
  rw [readString, hsplit, stripPrefix_append]
  exact readChars_escape hfuel rest

/-! ### Numerals are read back -/

/-- What cannot carry on a number. -/
def EndsNumber (rest : Str) : Prop :=
  ∀ c ∈ rest.head?, c.isDigit = false ∧ c ≠ '.' ∧ c ≠ 'e' ∧ c ≠ 'E'

/-- A run of digits is read to its end. -/
theorem readDigits_append {digits rest : Str} (hne : digits ≠ [])
    (hdigits : ∀ c ∈ digits, c.isDigit = true) (hrest : ∀ c ∈ rest.head?, c.isDigit = false) :
    readDigits (digits ++ rest) = some (digits, rest) := by
  have hstop : rest.takeWhile Char.isDigit = [] := by
    cases rest with
    | nil => rfl
    | cons c rest =>
      have hc : ¬ c.isDigit = true := Bool.eq_false_iff.mp (hrest c rfl)
      exact List.takeWhile_cons_of_neg hc
  unfold readDigits
  dsimp only
  rw [List.takeWhile_append_of_pos hdigits, hstop, List.append_nil, if_neg hne, List.drop_left]

/-- Where a number ends there is no fraction. -/
theorem readFraction_of {rest : Str} (h : EndsNumber rest) :
    readFraction rest = some ([], rest) := by
  unfold readFraction
  split
  · exact absurd rfl (h '.' rfl).2.1
  · rfl

/-- Where a number ends there is no exponent. -/
theorem readExponent_of {rest : Str} (h : EndsNumber rest) :
    readExponent rest = some ([], rest) := by
  cases rest with
  | nil => rfl
  | cons c rest =>
    obtain ⟨-, -, hlower, hupper⟩ := h c rfl
    rw [readExponent, if_neg (not_or.mpr ⟨hlower, hupper⟩)]

/-- A numeral is a JSON number without fraction or exponent. -/
theorem readNumber_decimal (n : ℕ) {rest : Str} (hrest : EndsNumber rest) :
    readNumber (decimal n ++ rest) = some (decimal n, rest) := by
  have hend : ∀ c ∈ rest.head?, c.isDigit = false := fun c hc => (hrest c hc).1
  have hdigits :=
    readDigits_append (decimal_ne_nil n) (fun c hc => isDigit_of_mem_decimal hc) hend
  -- nor a leading zero
  have hzero : ¬ ((decimal n).head? = some '0' ∧ decimal n ≠ ['0']) := by
    intro h
    exact h.2 (head?_decimal n h.1)
  -- a numeral has no sign
  have hsign : (decimal n ++ rest).head?.toList.filter (fun c => c = '-') = [] := by
    obtain ⟨c, cs, hc⟩ := List.exists_cons_of_ne_nil (decimal_ne_nil n)
    have hminus : c ≠ '-' := by
      intro heq
      exact not_mem_decimal (c := '-') (by decide) n (by rw [hc, heq]; simp)
    simp [hc, hminus]
  unfold readNumber
  rw [hsign]
  simp only [readInteger, List.length_nil, List.drop_zero, hdigits, hzero, Option.bind_eq_bind,
    Option.bind_some, if_false, readFraction_of hrest, readExponent_of hrest, List.nil_append,
    List.append_nil]

/-! ### Compact objects -/

/-- A text that white space is not skipped in. -/
def StartsPlain (s : Str) : Prop := ∀ c ∈ s.head?, isSpace c = false

/-- A text that starts plainly has no white space to skip. -/
theorem skipSpace_of {s : Str} (h : StartsPlain s) : skipSpace s = s := by
  cases s with
  | nil => rfl
  | cons c s => exact List.dropWhile_cons_of_neg (by simpa using h c rfl)

/-- A quoted text is read as a string. -/
theorem readValue_quote (fuel : ℕ) (s rest : Str) :
    readValue (fuel + 1) (quote s ++ rest) = some (.string s, rest) := by
  have hread := readString_quote s rest
  rw [quote, List.cons_append] at hread ⊢
  rw [readValue, hread]
  rfl

/-- Decimal digits are read as a number. -/
theorem readValue_decimal (fuel n : ℕ) {rest : Str} (hrest : EndsNumber rest) :
    readValue (fuel + 1) (decimal n ++ rest) = some (.number (decimal n), rest) := by
  have hread := readNumber_decimal n hrest
  obtain ⟨c, cs, hc⟩ := List.exists_cons_of_ne_nil (decimal_ne_nil n)
  have hdigit : c.isDigit = true := isDigit_of_mem_decimal (n := n) (by simp [hc])
  have hne {d : Char} (hd : d.isDigit = false) : c ≠ d := by
    intro heq
    rw [heq, hd] at hdigit
    cases hdigit
  rw [hc, List.cons_append] at hread ⊢
  rw [readValue, hread]
  · rfl
  -- a digit starts none of the other values
  all_goals
    intro tail heq
    exact hne rfl (List.cons.inj heq).1

section Members

variable {fuel : ℕ} {key text rest : Str} {value : Node}

/-- Whether a text starts plainly is said by its first character. -/
theorem startsPlain_cons {c : Char} {s : Str} (h : isSpace c = false) : StartsPlain (c :: s) := by
  intro d hd
  obtain rfl : c = d := Option.some.inj hd
  exact h

/-- A quoted text starts plainly. -/
theorem startsPlain_quote (s rest : Str) : StartsPlain (quote s ++ rest) := startsPlain_cons rfl

/-- A decimal starts plainly. -/
theorem startsPlain_decimal (n : ℕ) (rest : Str) : StartsPlain (decimal n ++ rest) := by
  obtain ⟨c, cs, hc⟩ := List.exists_cons_of_ne_nil (decimal_ne_nil n)
  -- white space is no digit
  have hdigit : c.isDigit = true := isDigit_of_mem_decimal (n := n) (by simp [hc])
  rw [hc]
  apply startsPlain_cons
  by_contra hspace
  simp only [isSpace, Bool.not_eq_false, Bool.or_eq_true, decide_eq_true_eq] at hspace
  rcases hspace with ((rfl | rfl) | rfl) | rfl <;> cases hdigit

/-- A member, whatever follows its value. -/
theorem readMembers_member (htext : StartsPlain text)
    (h : readValue fuel text = some (value, rest)) :
    readMembers (fuel + 1) (quote key ++ ':' :: text) =
      match skipSpace rest with
      | ',' :: rest => (readMembers fuel rest).map fun p => ((key, value) :: p.1, p.2)
      | '\x7d' :: rest => some ([(key, value)], rest)
      | _ => none := by
  -- compact text has no white space to skip
  have hcolon : skipSpace (':' :: text) = ':' :: text := skipSpace_of (startsPlain_cons rfl)
  have hstrip : stripPrefix [':'] (':' :: text) = some text := stripPrefix_append [':'] text
  rw [readMembers, skipSpace_of (startsPlain_quote key _), readString_quote]
  simp only [Option.bind_eq_bind, Option.bind_some, hcolon, hstrip, skipSpace_of htext, h]

/-- After a comma come further members. -/
theorem readMembers_more (htext : StartsPlain text)
    (h : readValue fuel text = some (value, ',' :: rest)) :
    readMembers (fuel + 1) (quote key ++ ':' :: text) =
      (readMembers fuel rest).map fun p => ((key, value) :: p.1, p.2) := by
  rw [readMembers_member htext h]
  rfl

/-- A brace ends the members. -/
theorem readMembers_last (htext : StartsPlain text)
    (h : readValue fuel text = some (value, '\x7d' :: rest)) :
    readMembers (fuel + 1) (quote key ++ ':' :: text) = some ([(key, value)], rest) := by
  rw [readMembers_member htext h]
  rfl

end Members

/-- A text that is one object and nothing more. -/
theorem read_object {body : Str} {members : List (Str × Node)} (hquote : body.head? = some '"')
    (h : readMembers (body.length + 1) body = some (members, [])) :
    read ('\x7b' :: body) = some (.object members) := by
  obtain ⟨rest, rfl⟩ := List.head?_eq_some_iff.mp hquote
  have hspace : skipSpace ('"' :: rest) = '"' :: rest := skipSpace_of (startsPlain_cons rfl)
  have hvalue : readValue (('\x7b' :: '"' :: rest).length + 1) ('\x7b' :: '"' :: rest) =
      some (.object members, []) := by
    -- the brace opens an object that is not empty
    rw [readValue, hspace, List.length_cons]
    change (readMembers (('"' :: rest).length + 1) ('"' :: rest)).map _ = _
    rw [h]
    rfl
  rw [read, skipSpace_of (startsPlain_cons rfl), hvalue]
  rfl

end Wire.JsonReader
