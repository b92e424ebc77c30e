import AttestationVerify.Wire.Text

namespace Wire

/-!
# Base64

The standard alphabet with canonical padding, as the `base64` crate's `STANDARD` engine has it:
`encode` pads, and `decode` accepts nothing but what `encode` writes (no missing padding, no stray
trailing bits).  `decode_encode` and `encode_of_decode` are the two halves of that bijection;
`encode_symbols` says which characters an encoding can contain, the fact every delimiter argument
over a base64 field rests on.
-/

namespace Base64

/-- The standard alphabet, in the order of its values. -/
def alphabet : List Char :=
  "ABCDEFGHIJKLMNOPQRSTUVWXYZabcdefghijklmnopqrstuvwxyz0123456789+/".toList

/-- The symbol of a 6-bit value. -/
def symbol (n : ℕ) : Char := alphabet.getD n '='

/-- The 6-bit value of a symbol; `none` off the alphabet. -/
def sextet (c : Char) : Option ℕ := alphabet.idxOf? c

/-- The alphabet spelled out. -/
theorem alphabet_eq : alphabet =
    ['A', 'B', 'C', 'D', 'E', 'F', 'G', 'H', 'I', 'J', 'K', 'L', 'M', 'N', 'O', 'P',
     'Q', 'R', 'S', 'T', 'U', 'V', 'W', 'X', 'Y', 'Z', 'a', 'b', 'c', 'd', 'e', 'f',
     'g', 'h', 'i', 'j', 'k', 'l', 'm', 'n', 'o', 'p', 'q', 'r', 's', 't', 'u', 'v',
     'w', 'x', 'y', 'z', '0', '1', '2', '3', '4', '5', '6', '7', '8', '9', '+', '/'] :=
  String.toList_ofList

/-- There is one symbol for every six bits. -/
theorem length_alphabet : alphabet.length = 64 := by
  rw [alphabet_eq]
  rfl

/-- No symbol stands twice in the alphabet. -/
theorem nodup_alphabet : alphabet.Nodup := by
  rw [alphabet_eq]
  decide +kernel

/-- The padding is no symbol of the alphabet. -/
theorem pad_not_mem_alphabet : '=' ∉ alphabet := by
  simp [alphabet_eq]

/-- A symbol is found by its value. -/
theorem symbol_eq_getElem {n : ℕ} (h : n < alphabet.length) : symbol n = alphabet[n] := by
  rw [symbol, List.getD_eq_getElem?_getD, List.getElem?_eq_getElem h, Option.getD_some]

/-- The value of a symbol is the one it was chosen for. -/
theorem sextet_symbol {n : ℕ} (h : n < 64) : sextet (symbol n) = some n := by
  rw [← length_alphabet] at h
  rw [sextet, symbol_eq_getElem h, List.idxOf?_eq_some_iff]
  refine ⟨h, rfl, fun j hj heq => ?_⟩
  -- a symbol is at one place only
  exact hj.ne ((List.getElem_inj nodup_alphabet).mp heq)

/-- What has a value is the symbol of it. -/
theorem symbol_of_sextet {c : Char} {n : ℕ} (h : sextet c = some n) : symbol n = c ∧ n < 64 := by
  obtain ⟨hlt, hget, -⟩ := List.idxOf?_eq_some_iff.mp h
  rw [symbol_eq_getElem hlt, ← length_alphabet]
  exact ⟨hget, hlt⟩

/-- No symbol is the padding. -/
theorem symbol_ne_pad {n : ℕ} (h : n < 64) : symbol n ≠ '=' := by
  rw [← length_alphabet] at h
  rw [symbol_eq_getElem h]
  exact ne_of_mem_of_not_mem (List.getElem_mem h) pad_not_mem_alphabet

/-- The character of an encoding: an alphabet symbol or the padding. -/
def IsSymbol (c : Char) : Prop := c ∈ alphabet ∨ c = '='

instance (c : Char) : Decidable (IsSymbol c) := inferInstanceAs (Decidable (_ ∨ _))

/-- The alphabet's symbols occur in texts. -/
theorem isSymbol_symbol (n : ℕ) : IsSymbol (symbol n) := by
  unfold IsSymbol symbol
  rw [List.getD_eq_getElem?_getD]
  cases h : alphabet[n]? with
  | none => exact Or.inr rfl
  | some c => exact Or.inl (List.mem_of_getElem? h)

/-- The padding occurs in texts too. -/
theorem isSymbol_pad : IsSymbol '=' := Or.inr rfl

/-- `STANDARD.encode`: three bytes to four symbols, a short last group padded with `=`. -/
def encode : Bytes → Str
  | [] => []
  | [a] => [symbol (a.toNat / 4), symbol (a.toNat % 4 * 16), '=', '=']
  | [a, b] =>
    [symbol (a.toNat / 4), symbol (a.toNat % 4 * 16 + b.toNat / 16), symbol (b.toNat % 16 * 4), '=']
  | a :: b :: c :: rest =>
    symbol (a.toNat / 4) :: symbol (a.toNat % 4 * 16 + b.toNat / 16) ::
      symbol (b.toNat % 16 * 4 + c.toNat / 64) :: symbol (c.toNat % 64) :: encode rest

/-- A last group `a b c =`: one byte when `c` is padding too, two otherwise; the bits below the
    last byte must be zero. -/
def decodeTail (a b c : Char) : Option Bytes := do
  let w ← sextet a
  let x ← sextet b
  if c = '=' then
    if x % 16 = 0 then some [UInt8.ofNat (w * 4 + x / 16)] else none
  else
    let y ← sextet c
    if y % 4 = 0 then
      some [UInt8.ofNat (w * 4 + x / 16), UInt8.ofNat (x % 16 * 16 + y / 4)]
    else none

/-- `STANDARD.decode`. -/
def decode : Str → Option Bytes
  | [] => some []
  | a :: b :: c :: d :: rest =>
    if d = '=' then
      if rest = [] then decodeTail a b c else none
    else do
      let w ← sextet a
      let x ← sextet b
      let y ← sextet c
      let z ← sextet d
      let t ← decode rest
      some (UInt8.ofNat (w * 4 + x / 16) :: UInt8.ofNat (x % 16 * 16 + y / 4) ::
        UInt8.ofNat (y % 4 * 64 + z) :: t)
  | _ => none

/-- A byte is recovered from any spelling of its value. -/
private theorem ofNat_eq_of_toNat {n : ℕ} {a : UInt8} (h : n = a.toNat) : UInt8.ofNat n = a := by
  rw [h, UInt8.ofNat_toNat]

/-- A small number survives as an octet. -/
private theorem toNat_ofNat_of_lt {n : ℕ} (h : n < 256) : (UInt8.ofNat n).toNat = n := by
  rw [UInt8.toNat_ofNat']
  exact Nat.mod_eq_of_lt h

/-- **Decoding undoes encoding.** -/
theorem decode_encode (b : Bytes) : decode (encode b) = some b := by
  induction b using encode.induct with
  | case1 => rfl
  -- one byte, and two symbols of padding
  | case2 a =>
    have ha := a.toNat_lt
    simp only [encode, decode, decodeTail, if_true, sextet_symbol (show a.toNat / 4 < 64 by omega),
      sextet_symbol (show a.toNat % 4 * 16 < 64 by omega), Option.bind_eq_bind, Option.bind_some]
    rw [if_pos (by omega), ofNat_eq_of_toNat (a := a) (by omega)]
  -- two bytes, and one
  | case3 a b =>
    have ha := a.toNat_lt
    have hb := b.toNat_lt
    simp only [encode, decode, decodeTail, if_true, sextet_symbol (show a.toNat / 4 < 64 by omega),
      sextet_symbol (show a.toNat % 4 * 16 + b.toNat / 16 < 64 by omega),
      sextet_symbol (show b.toNat % 16 * 4 < 64 by omega),
      symbol_ne_pad (show b.toNat % 16 * 4 < 64 by omega), if_false, Option.bind_eq_bind,
      Option.bind_some]
    rw [if_pos (by omega), ofNat_eq_of_toNat (a := a) (by omega),
      ofNat_eq_of_toNat (a := b) (by omega)]
  -- a full group, and the rest
  | case4 a b c rest ih =>
    have ha := a.toNat_lt
    have hb := b.toNat_lt
    have hc := c.toNat_lt
    simp only [encode, decode, symbol_ne_pad (show c.toNat % 64 < 64 by omega), if_false,
      sextet_symbol (show a.toNat / 4 < 64 by omega),
      sextet_symbol (show a.toNat % 4 * 16 + b.toNat / 16 < 64 by omega),
      sextet_symbol (show b.toNat % 16 * 4 + c.toNat / 64 < 64 by omega),
      sextet_symbol (show c.toNat % 64 < 64 by omega), ih, Option.bind_eq_bind, Option.bind_some]
    rw [ofNat_eq_of_toNat (a := a) (by omega), ofNat_eq_of_toNat (a := b) (by omega),
      ofNat_eq_of_toNat (a := c) (by omega)]

/-- Different bytes have different texts. -/
theorem encode_injective : Function.Injective encode := by
  intro a b h
  have hdecode := congrArg decode h
  simpa only [decode_encode, Option.some.injEq] using hdecode

/-- What a last group decodes to encodes as that group. -/
private theorem encode_of_decodeTail {a b c : Char} {out : Bytes}
    (h : decodeTail a b c = some out) : encode out = [a, b, c, '='] := by
  simp only [decodeTail, Option.bind_eq_bind, Option.bind_eq_some_iff] at h
  obtain ⟨w, hw, x, hx, h⟩ := h
  obtain ⟨rfl, hw64⟩ := symbol_of_sextet hw
  obtain ⟨rfl, hx64⟩ := symbol_of_sextet hx
  split at h
  · rename_i hc
    -- `c` is padding, and the low bits of `b` have to be zero
    split at h
    · rename_i hlow
      simp only [Option.some.injEq] at h
      subst h hc
      simp only [encode, toNat_ofNat_of_lt (show w * 4 + x / 16 < 256 by omega),
        show (w * 4 + x / 16) / 4 = w by omega, show (w * 4 + x / 16) % 4 * 16 = x by omega]
    · simp at h
  · -- `c` is a symbol, whose own low bits have to be zero
    simp only [Option.bind_eq_some_iff] at h
    obtain ⟨y, hy, h⟩ := h
    obtain ⟨rfl, hy64⟩ := symbol_of_sextet hy
    split at h
    · rename_i hlow
      simp only [Option.some.injEq] at h
      subst h
      simp only [encode, toNat_ofNat_of_lt (show w * 4 + x / 16 < 256 by omega),
        toNat_ofNat_of_lt (show x % 16 * 16 + y / 4 < 256 by omega),
        show (w * 4 + x / 16) / 4 = w by omega,
        show (w * 4 + x / 16) % 4 * 16 + (x % 16 * 16 + y / 4) / 16 = x by omega,
        show (x % 16 * 16 + y / 4) % 16 * 4 = y by omega]
    · simp at h

/-- **Encoding undoes decoding**: an accepted text is the canonical one. -/
theorem encode_of_decode {s : Str} {b : Bytes} (h : decode s = some b) : encode b = s := by
  induction s using decode.induct generalizing b with
  | case1 =>
    simp only [decode, Option.some.injEq] at h
    subst h; rfl
  -- a padded group is the last one
  | case2 a x c =>
    simp only [decode, if_true] at h
    exact encode_of_decodeTail h
  -- padding with more text after it
  | case3 a x c rest hrest =>
    simp [decode, hrest] at h
  | case4 a x c d rest hd ih =>
    simp only [decode, hd, if_false, Option.bind_eq_bind, Option.bind_eq_some_iff,
      Option.some.injEq] at h
    obtain ⟨w, hw, y, hy, z, hz, v, hv, t, ht, rfl⟩ := h
    -- the four values, regrouped into three bytes and back
    obtain ⟨rfl, hw64⟩ := symbol_of_sextet hw
    obtain ⟨rfl, hy64⟩ := symbol_of_sextet hy
    obtain ⟨rfl, hz64⟩ := symbol_of_sextet hz
    obtain ⟨rfl, hv64⟩ := symbol_of_sextet hv
    simp only [encode, ih ht, toNat_ofNat_of_lt (show w * 4 + y / 16 < 256 by omega),
      toNat_ofNat_of_lt (show y % 16 * 16 + z / 4 < 256 by omega),
      toNat_ofNat_of_lt (show z % 4 * 64 + v < 256 by omega),
      show (w * 4 + y / 16) / 4 = w by omega,
      show (w * 4 + y / 16) % 4 * 16 + (y % 16 * 16 + z / 4) / 16 = y by omega,
      show (y % 16 * 16 + z / 4) % 16 * 4 + (z % 4 * 64 + v) / 64 = z by omega,
      show (z % 4 * 64 + v) % 64 = v by omega]
  -- one to three characters are left
  | case5 s h0 h4 =>
    simp [decode] at h

/-- An encoding is made of alphabet symbols and padding. -/
theorem encode_symbols (b : Bytes) : ∀ c ∈ encode b, IsSymbol c := by
  induction b using encode.induct with
  | case1 => simp [encode]
  | case2 a => simp [encode, isSymbol_symbol, isSymbol_pad]
  | case3 a b => simp [encode, isSymbol_symbol, isSymbol_pad]
  | case4 a b c rest ih =>
    simp only [encode, List.mem_cons]
    rintro x (rfl | rfl | rfl | rfl | hx)
    · exact isSymbol_symbol _
    · exact isSymbol_symbol _
    · exact isSymbol_symbol _
    · exact isSymbol_symbol _
    · exact ih x hx

/-- No character off the alphabet occurs in an encoding. -/
theorem not_mem_encode {c : Char} (h : ¬ IsSymbol c) (b : Bytes) : c ∉ encode b :=
  fun hc => h (encode_symbols b c hc)

end Base64

end Wire
