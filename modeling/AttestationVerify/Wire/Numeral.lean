import AttestationVerify.Wire.Text
import Mathlib.Algebra.Group.Nat.Defs

namespace Wire

/-!
# Numerals

Decimal numerals of unsigned integers (`u64::to_string`, `str::parse::<u64>`) and lowercase
hexadecimal of byte strings (`hex::encode`, `hex::decode_to_slice`).  Both encodings are
injective and read back, and `isDigit_of_mem_decimal` / `not_mem_hex` bound the characters they
contain.
-/

/-! ### Decimal -/

/-- The canonical decimal numeral: no sign, no leading zero. -/
def decimal (n : ℕ) : Str := Nat.toDigits 10 n

/-- Different numbers have different digits. -/
theorem decimal_injective : Function.Injective decimal := by
  intro m n h
  have hvalue := congrArg (fun s => Nat.ofDigitChars 10 s 0) h
  simpa only [decimal, Nat.ofDigitChars_ten_toDigits] using hvalue

/-- A decimal has nothing but digits. -/
theorem isDigit_of_mem_decimal {n : ℕ} {c : Char} (h : c ∈ decimal n) : c.isDigit = true :=
  Nat.isDigit_of_mem_toDigits (by decide) (by decide) h

/-- A decimal has at least one digit. -/
theorem decimal_ne_nil (n : ℕ) : decimal n ≠ [] := Nat.toDigits_ne_nil

/-- A character that is no digit is in no numeral. -/
theorem not_mem_decimal {c : Char} (h : c.isDigit = false) (n : ℕ) : c ∉ decimal n := by
  intro hc
  rw [isDigit_of_mem_decimal hc] at h
  exact Bool.noConfusion h

/-- `str::parse::<u64>`: an optional leading `+`, then one or more ASCII digits whose value is
    below `2^64`. -/
def parseU64 (s : Str) : Option UInt64 :=
  let digits := if s.head? = some '+' then s.tail else s
  if digits ≠ [] ∧ digits.all Char.isDigit ∧ Nat.ofDigitChars 10 digits 0 < 2 ^ 64 then
    some (UInt64.ofNat (Nat.ofDigitChars 10 digits 0))
  else none

/-- Numerals of 64-bit integers are read back. -/
theorem parseU64_decimal (n : UInt64) : parseU64 (decimal n.toNat) = some n := by
  have hhead : (decimal n.toNat).head? ≠ some '+' := fun h =>
    not_mem_decimal (c := '+') (by decide) n.toNat (List.mem_of_mem_head? h)
  have hall : (decimal n.toNat).all Char.isDigit = true :=
    List.all_eq_true.mpr fun c hc => isDigit_of_mem_decimal hc
  have hval : Nat.ofDigitChars 10 (decimal n.toNat) 0 = n.toNat :=
    Nat.ofDigitChars_ten_toDigits
  unfold parseU64
  simp only [if_neg hhead, hval]
  rw [if_pos ⟨decimal_ne_nil _, hall, n.toNat_lt⟩, UInt64.ofNat_toNat]

/-- What is parsed is digits, behind at most one plus sign. -/
theorem parseU64_eq_some {s : Str} {n : UInt64} (h : parseU64 s = some n) :
    ∃ digits, (s = digits ∨ s = '+' :: digits) ∧ digits ≠ [] ∧ digits.all Char.isDigit ∧
      n.toNat = Nat.ofDigitChars 10 digits 0 := by
  have hsign : s = (if s.head? = some '+' then s.tail else s) ∨
      s = '+' :: (if s.head? = some '+' then s.tail else s) := by
    -- the sign is taken off once, before any digit is read
    by_cases hplus : s.head? = some '+'
    · obtain ⟨t, rfl⟩ := List.head?_eq_some_iff.mp hplus
      exact .inr (by simp)
    · exact .inl (if_neg hplus).symm
  unfold parseU64 at h
  obtain ⟨⟨hne, hall, hlt⟩, hvalue⟩ := Option.ite_none_right_eq_some.mp h
  refine ⟨_, hsign, hne, hall, ?_⟩
  rw [← Option.some.inj hvalue, UInt64.toNat_ofNat', Nat.mod_eq_of_lt hlt]

/-- A digit is the digit of a number below ten. -/
theorem exists_digitChar {c : Char} (h : c.isDigit = true) : ∃ d < 10, c = Nat.digitChar d := by
  have hall : ∀ d : Fin 10, (Nat.digitChar d).toNat = 48 + d := by decide
  obtain ⟨hlow, hhigh⟩ := Char.isDigit_iff_toNat.mp h
  have hlow : 48 ≤ c.toNat := hlow
  have hhigh : c.toNat ≤ 57 := hhigh
  refine ⟨c.toNat - 48, by omega, Char.toNat_inj.mp ?_⟩
  rw [hall ⟨c.toNat - 48, by omega⟩]
  exact (Nat.add_sub_cancel' hlow).symm

/-- Digits are the numeral of their value when they do not start with a `0` too many. -/
theorem decimal_ofDigitChars {s : Str} (hne : s ≠ []) (hdigits : ∀ c ∈ s, c.isDigit = true)
    (hzero : s.head? = some '0' → s = ['0']) : decimal (Nat.ofDigitChars 10 s 0) = s := by
  induction s using List.reverseRecOn with
  | nil => exact absurd rfl hne
  -- the last digit is the one the numeral's recursion takes off
  | append_singleton s c ih =>
    obtain ⟨d, hd, rfl⟩ := exists_digitChar (hdigits c (by simp))
    rw [Nat.ofDigitChars_append, Nat.ofDigitChars_cons_digitChar_of_lt_ten hd, Nat.ofDigitChars_nil]
    by_cases hs : s = []
    · rw [hs, Nat.ofDigitChars_nil, Nat.mul_zero, Nat.zero_add]
      exact Nat.toDigits_of_lt_base hd
    -- with a digit before it, the first one is no `0`, and the value before it is not zero
    have hhead : s.head? ≠ some '0' := by
      intro hhead
      have hone := congrArg List.length (hzero (by rw [List.head?_append, hhead]; rfl))
      rw [List.length_append, List.length_singleton, List.length_singleton,
        Nat.add_eq_right, List.length_eq_zero_iff] at hone
      exact hs hone
    have ih := ih hs (fun c hc => hdigits c (by simp [hc])) (fun h => absurd h hhead)
    have hpos : 0 < Nat.ofDigitChars 10 s 0 := by
      by_contra hzero
      rw [Nat.eq_zero_of_not_pos hzero] at ih
      exact hhead (ih ▸ rfl)
    unfold decimal at ih ⊢
    rw [← Nat.toDigits_append_toDigits (by decide) hpos hd, ih, Nat.toDigits_of_lt_base hd]

/-- Only zero starts with a zero. -/
theorem head?_decimal (n : ℕ) : (decimal n).head? = some '0' → decimal n = ['0'] := by
  induction n using Nat.strongRecOn with
  | ind n ih =>
    intro h
    unfold decimal at h ⊢
    -- one digit is its own head; a longer numeral begins as its quotient does
    by_cases hn : n < 10
    · rw [Nat.toDigits_of_lt_base hn] at h ⊢
      simpa using h
    · rw [Nat.toDigits_of_base_le (by decide) (by omega), List.head?_append] at h
      cases hhead : (Nat.toDigits 10 (n / 10)).head? with
      | none => exact absurd (List.head?_eq_none_iff.mp hhead) Nat.toDigits_ne_nil
      | some c =>
        rw [hhead, Option.some_or] at h
        -- a quotient that starts with `0` is `0`
        have hquotient := ih (n / 10) (by omega) (hhead.trans h)
        have hvalue := congrArg (fun s => Nat.ofDigitChars 10 s 0) hquotient
        simp only [decimal, Nat.ofDigitChars_ten_toDigits] at hvalue
        have hzero : n / 10 = 0 := hvalue
        omega

/-- The numerals `parse::<u64>` accepts are canonical, a `+` and superfluous zeros aside. -/
theorem eq_decimal_iff {s : Str} {n : UInt64} (h : parseU64 s = some n) :
    s = decimal n.toNat ↔ s.head? ≠ some '+' ∧ (s.head? = some '0' → s = ['0']) := by
  constructor
  · intro hs
    rw [hs]
    refine ⟨fun hplus => ?_, head?_decimal n.toNat⟩
    exact not_mem_decimal (c := '+') (by decide) n.toNat (List.mem_of_mem_head? hplus)
  · intro hs
    -- with a sign the right side fails; without one the digits are canonical
    obtain ⟨digits, rfl | rfl, hne, hall, hvalue⟩ := parseU64_eq_some h
    · rw [hvalue, decimal_ofDigitChars hne (List.all_eq_true.mp hall) hs.2]
    · exact absurd rfl hs.1

/-! ### Hexadecimal -/

namespace Hex

/-- The lower-case hexadecimal digits. -/
def digits : List Char := "0123456789abcdef".toList

/-- The digit of a nibble. -/
def digit (n : ℕ) : Char := digits.getD n '0'

/-- The value of a hex digit of either case. -/
def value (c : Char) : Option ℕ := digits.idxOf? c.toLower

/-- A digit has the value it was chosen for. -/
theorem value_digit {n : ℕ} (h : n < 16) : value (digit n) = some n := by
  have hall : ∀ m : Fin 16, value (digit m) = some m.val := by decide +kernel
  exact hall ⟨n, h⟩

/-- A digit is one of the sixteen. -/
theorem digit_mem (n : ℕ) : digit n ∈ digits := by
  unfold digit
  rw [List.getD_eq_getElem?_getD]
  cases h : digits[n]? with
  | none => decide
  | some c => exact List.mem_of_getElem? h

/-- `hex::encode`. -/
def encode (b : Bytes) : Str := b.flatMap fun x => [digit (x.toNat / 16), digit (x.toNat % 16)]

@[simp] theorem encode_nil : encode [] = [] := rfl

/-- Each byte is two digits. -/
@[simp] theorem encode_cons (x : UInt8) (b : Bytes) :
    encode (x :: b) = digit (x.toNat / 16) :: digit (x.toNat % 16) :: encode b := rfl

/-- Hex decoding of either case; `none` for an odd length or a character off the alphabet. -/
def decode : Str → Option Bytes
  | [] => some []
  | [_] => none
  | h :: l :: rest => do
    let x ← value h
    let y ← value l
    let t ← decode rest
    some (UInt8.ofNat (x * 16 + y) :: t)

/-- `hex::decode_to_slice` into an array of `n` bytes. -/
def decodeTo (n : ℕ) (s : Str) : Option (Octets n) := (decode s).bind (toOctets n)

/-- Bytes are read back from their digits. -/
theorem decode_encode (b : Bytes) : decode (encode b) = some b := by
  induction b with
  | nil => rfl
  | cons x b ih =>
    have hx := x.toNat_lt
    simp only [encode_cons, decode, ih, value_digit (show x.toNat / 16 < 16 by omega),
      value_digit (show x.toNat % 16 < 16 by omega), Option.bind_eq_bind, Option.bind_some]
    rw [show x.toNat / 16 * 16 + x.toNat % 16 = x.toNat by omega, UInt8.ofNat_toNat]

/-- Different bytes have different digits. -/
theorem encode_injective : Function.Injective encode := by
  intro a b h
  have hbytes := congrArg decode h
  simpa only [decode_encode, Option.some.injEq] using hbytes

/-- An array is read back at its own length. -/
theorem decodeTo_encode {n : ℕ} (o : Octets n) : decodeTo n (encode o.bytes) = some o := by
  simp [decodeTo, decode_encode]

/-- A digit of either case has the value of the digit it is written as in lower case. -/
theorem value_eq_some {c : Char} {n : ℕ} : value c = some n ↔ n < 16 ∧ c.toLower = digit n := by
  have hdigit {n : ℕ} (hn : n < digits.length) : digits[n] = digit n := by
    rw [digit, List.getD_eq_getElem?_getD, List.getElem?_eq_getElem hn, Option.getD_some]
  unfold value
  constructor
  · intro h
    obtain ⟨hn, heq, -⟩ := List.idxOf?_eq_some_iff.mp h
    exact ⟨hn, by rw [← hdigit hn, heq]⟩
  · rintro ⟨hn, heq⟩
    have hall : ∀ m : Fin 16, digits.idxOf? (digit m) = some m.val := by decide +kernel
    rw [heq]
    exact hall ⟨n, hn⟩

/-- **The texts of a byte string** are its encoding in any mixture of cases. -/
theorem decode_eq_some {s : Str} {b : Bytes} :
    decode s = some b ↔ s.map Char.toLower = encode b := by
  induction s using decode.induct generalizing b with
  | case1 => cases b <;> simp [decode]
  | case2 c => cases b <;> simp [decode]
  | case3 h l rest ih =>
    simp only [decode, Option.bind_eq_bind, Option.bind_eq_some_iff, value_eq_some, ih,
      Option.some.injEq, List.map_cons]
    constructor
    · rintro ⟨x, ⟨hx, hh⟩, y, ⟨hy, hl⟩, t, ht, rfl⟩
      have hbyte : (UInt8.ofNat (x * 16 + y)).toNat = x * 16 + y := by
        rw [UInt8.toNat_ofNat']
        omega
      rw [encode_cons, hbyte, show (x * 16 + y) / 16 = x by omega,
        show (x * 16 + y) % 16 = y by omega, hh, hl, ht]
    · intro heq
      cases b with
      | nil => simp at heq
      | cons byte b =>
        simp only [encode_cons, List.cons.injEq] at heq
        obtain ⟨hh, hl, ht⟩ := heq
        have hbyte := byte.toNat_lt
        refine ⟨byte.toNat / 16, ⟨by omega, hh⟩, byte.toNat % 16, ⟨by omega, hl⟩, b, ht, ?_⟩
        rw [show byte.toNat / 16 * 16 + byte.toNat % 16 = byte.toNat by omega, UInt8.ofNat_toNat]

/-- An array is read from its digits in any letter case. -/
theorem decodeTo_eq_some {n : ℕ} {s : Str} {o : Octets n} :
    decodeTo n s = some o ↔ s.map Char.toLower = encode o.bytes := by
  simp only [decodeTo, Option.bind_eq_some_iff, decode_eq_some, toOctets_eq_some]
  constructor
  · rintro ⟨b, h, rfl⟩
    exact h
  · intro h
    exact ⟨o.bytes, h, rfl⟩

/-- There are two digits for each byte. -/
theorem length_encode (b : Bytes) : (encode b).length = 2 * b.length := by
  induction b with
  | nil => rfl
  | cons x b ih =>
    rw [encode_cons, List.length_cons, List.length_cons, ih, List.length_cons, Nat.mul_add]

/-- An even number of digits is the text of some bytes. -/
theorem exists_decode {s : Str} (h : ∀ c ∈ s, (value c).isSome) (heven : s.length % 2 = 0) :
    ∃ b, decode s = some b ∧ s.length = 2 * b.length := by
  induction s using decode.induct with
  | case1 => exact ⟨[], rfl, rfl⟩
  | case2 c => simp at heven
  | case3 c d rest ih =>
    obtain ⟨hc, hrest⟩ := List.forall_mem_cons.mp h
    obtain ⟨hd, hrest⟩ := List.forall_mem_cons.mp hrest
    obtain ⟨x, hx⟩ := Option.isSome_iff_exists.mp hc
    obtain ⟨y, hy⟩ := Option.isSome_iff_exists.mp hd
    obtain ⟨t, ht, hlength⟩ := ih hrest (by simp only [List.length_cons] at heven; omega)
    refine ⟨_, by rw [decode, hx, hy, ht]; rfl, ?_⟩
    simp only [List.length_cons, hlength]
    omega

/-- No character off the lowercase alphabet occurs in an encoding. -/
theorem not_mem_encode {c : Char} (h : c ∉ digits) (b : Bytes) : c ∉ encode b := by
  intro hc
  simp only [encode, List.mem_flatMap, List.mem_cons, List.not_mem_nil, or_false] at hc
  obtain ⟨x, -, rfl | rfl⟩ := hc
  · exact h (digit_mem _)
  · exact h (digit_mem _)

end Hex

end Wire
