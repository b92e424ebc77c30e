import Mathlib.Data.List.Infix

namespace Wire

/-!
# Bytes and text

A Rust `&[u8]` is a list of bytes, a `[u8; n]` a list of that length, a `&str` the list of its
Unicode scalar values; `utf8` is the passage from text to bytes (`str::as_bytes`) and
`fromUtf8` its partial inverse (`String::from_utf8`).

The rest of the file models the `str` and slice methods a hand-written parser is made of:
`splitOnce`, `stripPrefix`, `stripSuffix`, `findSub`, `splitN`, `lines`, `trim` and
`eqIgnoreAsciiCase`, each with the lemma that says what it recognises.
-/

/-- A `Vec<u8>` or `&[u8]`. -/
abbrev Bytes := List UInt8

/-- `[u8; n]`. -/
@[ext] structure Octets (n : ℕ) where
  bytes : Bytes
  length_eq : bytes.length = n
  deriving DecidableEq

/-- All of them zero. -/
def Octets.zero (n : ℕ) : Octets n := ⟨List.replicate n 0, List.length_replicate⟩

/-- Two inputs a function does not tell apart. -/
def Collision {α β : Type} (f : α → β) (a b : α) : Prop := a ≠ b ∧ f a = f b

/-- A Rust string: its scalar values in order. -/
abbrev Str := List Char

instance Str.lawfulBEq : LawfulBEq Str := inferInstance

/-- What holds of each character of a literal, by looking at them. -/
theorem forall_mem_of_all {p : Char → Prop} [DecidablePred p] {l : Str}
    (h : l.all (fun c => decide (p c)) = true) : ∀ c ∈ l, p c :=
  fun c hc => of_decide_eq_true (List.all_eq_true.mp h c hc)

/-! ### UTF-8 -/

/-- `str::as_bytes`. -/
def utf8 (s : Str) : Bytes := s.flatMap String.utf8EncodeChar

@[simp] theorem utf8_nil : utf8 [] = [] := rfl

@[simp] theorem utf8_cons (c : Char) (s : Str) :
    utf8 (c :: s) = String.utf8EncodeChar c ++ utf8 s := rfl

/-- Encoding goes character by character. -/
@[simp] theorem utf8_append (s t : Str) : utf8 (s ++ t) = utf8 s ++ utf8 t :=
  List.flatMap_append

/-- The bytes are those the standard library encodes a text to. -/
theorem utf8_toByteArray (s : Str) : (utf8 s).toByteArray = s.utf8Encode := rfl

/-- Distinct strings have distinct encodings. -/
theorem utf8_injective : Function.Injective utf8 := by
  intro s t h
  have hdec : s.utf8Encode.utf8Decode? = t.utf8Encode.utf8Decode? := by
    rw [← utf8_toByteArray, ← utf8_toByteArray, h]
  rw [List.utf8Decode?_utf8Encode, List.utf8Decode?_utf8Encode] at hdec
  simpa using hdec

/-- The encoding of a character does not begin another's. -/
theorem utf8EncodeChar_append_inj {c d : Char} {x y : Bytes}
    (h : String.utf8EncodeChar c ++ x = String.utf8EncodeChar d ++ y) : c = d ∧ x = y := by
  -- a decoder reads the first character off both
  have hdecode (e : Char) (z : Bytes) :
      (String.utf8EncodeChar e ++ z).toByteArray.utf8DecodeChar? 0 = some e := by
    rw [List.toByteArray_append]
    exact ByteArray.utf8DecodeChar?_utf8EncodeChar_append
  have hc := hdecode c x
  rw [h, hdecode d y] at hc
  obtain rfl : d = c := Option.some.inj hc
  exact ⟨rfl, List.append_cancel_left h⟩

/-- Where a first byte stands in a text's bytes, a character starts. -/
theorem utf8_eq_append {t : Str} {u w : Bytes} {b : UInt8} (hb : b.IsUTF8FirstByte)
    (h : utf8 t = u ++ b :: w) : ∃ t₁ t₂, t = t₁ ++ t₂ ∧ u = utf8 t₁ ∧ b :: w = utf8 t₂ := by
  induction t generalizing u with
  | nil => simp at h
  | cons c t ih =>
    rw [utf8_cons] at h
    by_cases hu : u = []
    · subst hu
      exact ⟨[], c :: t, rfl, rfl, h.symm⟩
    rcases List.append_eq_append_iff.mp h with ⟨v, hv, ht⟩ | ⟨v, hv, ht⟩
    · -- the byte stands after the first character
      obtain ⟨t₁, t₂, rfl, rfl, hw⟩ := ih ht
      exact ⟨c :: t₁, t₂, rfl, hv, hw⟩
    · cases v with
      | nil => exact ⟨[c], t, rfl, by simpa using hv.symm, by simpa using ht⟩
      | cons b' v =>
        -- `b` would be a continuation byte of `c`
        obtain ⟨rfl, -⟩ := List.cons.inj ht
        have hlt : u.length < (String.utf8EncodeChar c).length := by rw [hv]; simp
        have hget : (String.utf8EncodeChar c)[u.length] = b := by simp [hv]
        rw [← hget, UInt8.isUTF8FirstByte_getElem_utf8EncodeChar, List.length_eq_zero_iff] at hb
        exact absurd hb hu

/-- A character is at least one byte, the first of which says that it starts here. -/
theorem exists_utf8EncodeChar (c : Char) :
    ∃ b rest, String.utf8EncodeChar c = b :: rest ∧ b.IsUTF8FirstByte := by
  obtain ⟨b, rest, hc⟩ := List.exists_cons_of_ne_nil (String.utf8EncodeChar_ne_nil (c := c))
  have hfirst := UInt8.isUTF8FirstByte_getElem_zero_utf8EncodeChar (c := c)
  exact ⟨b, rest, hc, by simpa [hc] using hfirst⟩

/-- The byte of an ASCII character occurs in no other character's encoding. -/
theorem mem_utf8EncodeChar {c d : Char} {b : UInt8} (hd : String.utf8EncodeChar d = [b])
    (h : b ∈ String.utf8EncodeChar c) : c = d := by
  obtain ⟨i, hi, hget⟩ := List.getElem_of_mem h
  obtain ⟨b', rest', hd', hfirst⟩ := exists_utf8EncodeChar d
  obtain rfl : b = b' := (List.cons.inj (hd.symm.trans hd')).1
  rw [← hget, UInt8.isUTF8FirstByte_getElem_utf8EncodeChar] at hfirst
  subst hfirst
  obtain ⟨a, rest, hc, -⟩ := exists_utf8EncodeChar c
  have hab : a = b := by simpa [hc] using hget
  apply (utf8EncodeChar_append_inj (x := []) (y := rest) _).1
  rw [hd, hc, hab, List.append_nil, List.singleton_append]

/-- A character is at most four bytes. -/
theorem length_utf8_le (s : Str) : (utf8 s).length ≤ 4 * s.length := by
  induction s with
  | nil => simp
  | cons c s ih =>
    have hsize := c.utf8Size_le_four
    simp only [utf8_cons, List.length_append, String.length_utf8EncodeChar, List.length_cons]
    omega

/-- A bound on a literal's bytes that counts its characters only. -/
theorem length_utf8_literal_le (l : Str) {n : ℕ} (h : 4 * l.length ≤ n) :
    (utf8 (String.ofList l).toList).length ≤ n := by
  rw [String.toList_ofList]
  exact (length_utf8_le l).trans h

/-- Bounds on two texts add up. -/
theorem length_utf8_append_le {s t : Str} {m n : ℕ} (hs : (utf8 s).length ≤ m)
    (ht : (utf8 t).length ≤ n) : (utf8 (s ++ t)).length ≤ m + n := by
  rw [utf8_append, List.length_append]
  exact Nat.add_le_add hs ht

/-- `String::from_utf8`. -/
def fromUtf8 (b : Bytes) : Option Str := (b.toByteArray.utf8Decode?).map Array.toList

/-- `from_utf8` accepts exactly the encodings of strings. -/
theorem fromUtf8_eq_some {b : Bytes} {s : Str} : fromUtf8 b = some s ↔ utf8 s = b := by
  constructor
  · intro h
    obtain ⟨a, ha, rfl⟩ := Option.map_eq_some_iff.mp h
    -- what the decoder gives encodes to the bytes it was given
    have hsome : (b.toByteArray.utf8Decode?).isSome = true := by simp [ha]
    have hget : (b.toByteArray.utf8Decode?).get hsome = a := by simp [ha]
    have henc := ByteArray.utf8Encode_get_utf8Decode? (h := hsome)
    rw [hget, ← utf8_toByteArray] at henc
    exact List.toByteArray_inj.mp henc
  · rintro rfl
    simp [fromUtf8, utf8_toByteArray, List.utf8Decode?_utf8Encode]

/-- `<[u8; n]>::try_from`. -/
def toOctets (n : ℕ) (b : Bytes) : Option (Octets n) :=
  if h : b.length = n then some ⟨b, h⟩ else none

/-- Only a slice of the right length becomes an array, and of the same bytes. -/
@[simp] theorem toOctets_eq_some {n : ℕ} {b : Bytes} {o : Octets n} :
    toOctets n b = some o ↔ b = o.bytes := by
  unfold toOctets
  split
  · simp [Octets.ext_iff]
  · rename_i h
    simp only [reduceCtorEq, false_iff]
    rintro rfl
    exact h o.length_eq

/-- An array is its own slice. -/
@[simp] theorem toOctets_bytes {n : ℕ} (o : Octets n) : toOctets n o.bytes = some o :=
  toOctets_eq_some.mpr rfl

/-! ### Splitting at a separator -/

section Split

variable {α : Type} [DecidableEq α]

/-- `str::split_once`: the parts before and after the first `sep`. -/
def splitOnce (sep : α) : List α → Option (List α × List α)
  | [] => none
  | x :: xs => if x = sep then some ([], xs) else (splitOnce sep xs).map fun p => (x :: p.1, p.2)

/-- The cut is at the first separator there is. -/
theorem splitOnce_eq_some {sep : α} {s a b : List α} :
    splitOnce sep s = some (a, b) ↔ s = a ++ sep :: b ∧ sep ∉ a := by
  induction s generalizing a with
  | nil => simp [splitOnce]
  | cons x xs ih =>
    -- the separator is this character, or is looked for in the rest
    unfold splitOnce
    by_cases hx : x = sep
    · subst hx
      cases a with
      | nil => simp [eq_comm]
      | cons y ys => simp; tauto
    · rw [if_neg hx]
      cases a with
      | nil => simp [hx]
      | cons y ys =>
        simp only [Option.map_eq_some_iff, Prod.mk.injEq, List.cons.injEq, Prod.exists,
          List.cons_append, List.mem_cons, not_or]
        constructor
        · intro h
          obtain ⟨a', b', hs, ⟨rfl, rfl⟩, rfl⟩ := h
          exact ⟨⟨rfl, (ih.mp hs).1⟩, Ne.symm hx, (ih.mp hs).2⟩
        · intro h
          obtain ⟨⟨rfl, hs⟩, _, hn⟩ := h
          exact ⟨ys, b, ih.mpr ⟨hs, hn⟩, ⟨rfl, rfl⟩, rfl⟩

/-- A separator-free head is cut off at the separator that follows it. -/
theorem splitOnce_append {sep : α} {a : List α} (b : List α) (ha : sep ∉ a) :
    splitOnce sep (a ++ sep :: b) = some (a, b) :=
  splitOnce_eq_some.mpr ⟨rfl, ha⟩

/-- A field is determined by the first character of the delimiter that ends it. -/
theorem append_delimited_inj {c : α} {a a' delimiter r r' : List α}
    (hdelimiter : delimiter.head? = some c) (ha : c ∉ a) (ha' : c ∉ a')
    (h : a ++ (delimiter ++ r) = a' ++ (delimiter ++ r')) : a = a' ∧ r = r' := by
  obtain ⟨rest, rfl⟩ := List.head?_eq_some_iff.mp hdelimiter
  have hsplit := congrArg (splitOnce c) h
  rw [List.cons_append, List.cons_append, splitOnce_append _ ha, splitOnce_append _ ha'] at hsplit
  obtain ⟨hfield, hrest⟩ := Prod.mk.inj (Option.some.inj hsplit)
  exact ⟨hfield, List.append_cancel_left hrest⟩

/-- `str::strip_prefix`. -/
def stripPrefix (pre : List α) (s : List α) : Option (List α) :=
  if pre <+: s then some (s.drop pre.length) else none

/-- What is left is what the prefix was put in front of. -/
theorem stripPrefix_eq_some {pre s t : List α} :
    stripPrefix pre s = some t ↔ s = pre ++ t := by
  unfold stripPrefix
  split
  · rename_i h
    obtain ⟨u, rfl⟩ := h
    simp [eq_comm]
  · rename_i h
    simp only [reduceCtorEq, false_iff]
    rintro rfl
    exact h (List.prefix_append _ _)

/-- A prefix that was put there is taken off. -/
@[simp] theorem stripPrefix_append (pre t : List α) : stripPrefix pre (pre ++ t) = some t :=
  stripPrefix_eq_some.mpr rfl

/-- `str::strip_suffix`. -/
def stripSuffix (suf : List α) (s : List α) : Option (List α) :=
  if suf <:+ s then some (s.take (s.length - suf.length)) else none

/-- What is left is what the suffix was put after. -/
theorem stripSuffix_eq_some {suf s t : List α} :
    stripSuffix suf s = some t ↔ s = t ++ suf := by
  unfold stripSuffix
  split
  · rename_i h
    obtain ⟨u, rfl⟩ := h
    simp [eq_comm]
  · rename_i h
    simp only [reduceCtorEq, false_iff]
    rintro rfl
    exact h (List.suffix_append _ _)

/-- `str::find`: where the first occurrence of `pat` starts. -/
def findSub (pat : List α) : List α → Option ℕ
  | [] => if pat = [] then some 0 else none
  | x :: xs => if pat <+: x :: xs then some 0 else (findSub pat xs).map (· + 1)

/-- The text before the first occurrence, and the occurrence itself, read off `find`'s index. -/
theorem findSub_spec {pat s : List α} {i : ℕ} (h : findSub pat s = some i) :
    s = s.take i ++ pat ++ s.drop (i + pat.length) := by
  induction s generalizing i with
  | nil =>
    simp only [findSub] at h
    split at h <;> simp_all
  | cons x xs ih =>
    simp only [findSub] at h
    split at h
    · rename_i hp
      obtain ⟨t, ht⟩ := hp
      simp only [Option.some.injEq] at h
      subst h
      simp [← ht]
    · obtain ⟨j, hj, rfl⟩ := Option.map_eq_some_iff.mp h
      have hrest := ih hj
      rw [Nat.add_right_comm, List.take_succ_cons, List.drop_succ_cons]
      simpa using hrest

/-- The text before the first occurrence has the length `find` reports. -/
theorem length_take_of_findSub {pat s : List α} {i : ℕ} (hpat : pat ≠ [])
    (h : findSub pat s = some i) : (s.take i).length = i := by
  have hlength := congrArg List.length (findSub_spec h)
  have hpos : 0 < pat.length := List.length_pos_of_ne_nil hpat
  simp only [List.length_append, List.length_take, List.length_drop] at hlength ⊢
  omega

/-- An occurrence after `a` is the first one when no other starts in `a`.  What follows the
    occurrence has no say in that. -/
theorem findSub_append_iff {pat a : List α} (b : List α) (hpat : pat ≠ []) :
    findSub pat (a ++ pat ++ b) = some a.length ↔ ¬ pat <:+: a ++ pat.dropLast := by
  have hpos : 0 < pat.length := List.length_pos_of_ne_nil hpat
  induction a with
  | nil =>
    refine iff_of_true ?_ fun h => ?_
    · obtain ⟨y, ys, rfl⟩ := List.exists_cons_of_ne_nil hpat
      exact if_pos ⟨b, rfl⟩
    · have hle := h.length_le
      simp only [List.nil_append, List.length_dropLast] at hle
      omega
  | cons x a ih =>
    -- whether it starts here is settled before its last character
    have hprefix : pat <+: x :: (a ++ pat ++ b) ↔ pat <+: x :: (a ++ pat.dropLast) := by
      have hle : x :: (a ++ pat.dropLast) <+: x :: (a ++ pat ++ b) := by
        rw [List.append_assoc, List.prefix_cons_inj, List.prefix_append_right_inj]
        exact (List.dropLast_prefix pat).trans (List.prefix_append pat b)
      refine ⟨fun h => List.prefix_of_prefix_length_le h hle ?_, fun h => h.trans hle⟩
      simp only [List.length_cons, List.length_append, List.length_dropLast]
      omega
    have hstep (t : List α) : findSub pat (x :: t) = some (a.length + 1) ↔
        ¬ pat <+: x :: t ∧ findSub pat t = some a.length := by
      by_cases h : pat <+: x :: t <;> simp [findSub, h]
    rw [List.cons_append, List.cons_append, List.cons_append, List.infix_cons_iff, not_or,
      List.length_cons, hstep, hprefix]
    exact and_congr_right fun _ => ih

/-- `str::splitn`: at most `n` parts, the last one taking the rest. -/
def splitN (sep : α) : ℕ → List α → List (List α)
  | 0, _ => []
  | 1, s => [s]
  | n + 2, s =>
    match splitOnce sep s with
    | some (a, b) => a :: splitN sep (n + 1) b
    | none => [s]

end Split

/-- No occurrence starts in a text without the first character. -/
theorem infix_append_iff_of_not_mem {α : Type} {c : α} {pat a t : List α} (ha : c ∉ a) :
    c :: pat <:+: a ++ t ↔ c :: pat <:+: t := by
  induction a with
  | nil => rfl
  | cons x a ih =>
    rw [List.mem_cons, not_or] at ha
    rw [List.cons_append, List.infix_cons_iff, List.cons_prefix_cons, ih ha.2]
    exact or_iff_right fun h => ha.1 h.1

/-! ### Lines, white space, case -/

/-- `str::split_inclusive('\n')`: the pieces of `s`, each with the line feed that ends it. -/
def splitInclusive : Str → List Str
  | [] => []
  | c :: cs =>
    if c = '\n' then [c] :: splitInclusive cs
    else
      match splitInclusive cs with
      | [] => [[c]]
      | l :: ls => (c :: l) :: ls

/-- One piece of `split_inclusive` without its terminator, a line feed or `\r\n`. -/
def chompLine (l : Str) : Str :=
  match stripSuffix ['\n'] l with
  | none => l
  | some t => (stripSuffix ['\r'] t).getD t

/-- `str::lines`. -/
def lines (s : Str) : List Str := (splitInclusive s).map chompLine

/-- The text of a line that a line feed ends: a carriage return before it goes too. -/
def dropCr (l : Str) : Str := (stripSuffix ['\r'] l).getD l

/-- Every line with the line feed that ends it. -/
def terminated (ls : List Str) : Str := ls.flatMap (· ++ ['\n'])

@[simp] theorem terminated_nil : terminated [] = [] := rfl

/-- The first line stands in front of the rest. -/
@[simp] theorem terminated_cons (l : Str) (ls : List Str) :
    terminated (l :: ls) = l ++ '\n' :: terminated ls := by
  simp [terminated]

/-- Without a carriage return at its end a line stays as it is. -/
theorem dropCr_of {l : Str} (h : l.getLast? ≠ some '\r') : dropCr l = l := by
  have hnone : stripSuffix ['\r'] l = none := by
    rw [Option.eq_none_iff_forall_ne_some]
    intro t ht
    apply h
    rw [stripSuffix_eq_some.mp ht]
    exact List.getLast?_concat
  rw [dropCr, hnone, Option.getD_none]

/-- At most one carriage return goes. -/
theorem dropCr_eq_or (l : Str) : l = dropCr l ∨ l = dropCr l ++ ['\r'] := by
  unfold dropCr
  cases h : stripSuffix ['\r'] l with
  | none => exact .inl rfl
  | some t => exact .inr (stripSuffix_eq_some.mp h)

/-- Nothing is left of an empty line, or of one carriage return. -/
theorem dropCr_eq_nil {l : Str} : dropCr l = [] ↔ l = [] ∨ l = ['\r'] := by
  constructor
  · intro h
    simpa [h] using dropCr_eq_or l
  · intro h
    rcases h with rfl | rfl <;> rfl

/-- A piece runs to the first line feed and keeps it. -/
theorem splitInclusive_append {l : Str} (hl : '\n' ∉ l) (rest : Str) :
    splitInclusive (l ++ '\n' :: rest) = (l ++ ['\n']) :: splitInclusive rest := by
  induction l with
  | nil => rfl
  | cons c l ih =>
    rw [List.mem_cons, not_or] at hl
    rw [List.cons_append, splitInclusive, if_neg (Ne.symm hl.1), ih hl.2, List.cons_append]

/-- A text without line feeds is one piece. -/
theorem splitInclusive_of_not_mem {l : Str} (hl : '\n' ∉ l) (hne : l ≠ []) :
    splitInclusive l = [l] := by
  induction l with
  | nil => exact absurd rfl hne
  | cons c l ih =>
    rw [List.mem_cons, not_or] at hl
    rw [splitInclusive, if_neg (Ne.symm hl.1)]
    cases l with
    | nil => rfl
    | cons d l => rw [ih hl.2 (List.cons_ne_nil d l)]

/-- A line ends at the first line feed. -/
theorem lines_append {l : Str} (hl : '\n' ∉ l) (rest : Str) :
    lines (l ++ '\n' :: rest) = dropCr l :: lines rest := by
  unfold lines
  rw [splitInclusive_append hl, List.map_cons, chompLine, stripSuffix_eq_some.mpr rfl]
  rfl

/-- The last line, when no line feed ends it, is taken as it stands. -/
theorem lines_of_not_mem {l : Str} (hl : '\n' ∉ l) (hne : l ≠ []) : lines l = [l] := by
  have hnone : stripSuffix ['\n'] l = none := by
    rw [Option.eq_none_iff_forall_ne_some]
    intro t ht
    apply hl
    rw [stripSuffix_eq_some.mp ht]
    simp
  rw [lines, splitInclusive_of_not_mem hl hne, List.map_singleton, chompLine, hnone]

/-- Written lines are read back, less their carriage returns. -/
theorem lines_terminated {ls : List Str} (h : ∀ l ∈ ls, '\n' ∉ l) :
    lines (terminated ls) = ls.map dropCr := by
  induction ls with
  | nil => rfl
  | cons l ls ih =>
    obtain ⟨hl, hls⟩ := List.forall_mem_cons.mp h
    rw [terminated_cons, lines_append hl, ih hls, List.map_cons]

/-- Read backwards: a line is what stands before a line feed, save for a carriage return.  A line
    feed is added at the end for the last line to have one. -/
theorem exists_of_lines_eq_cons {s l : Str} {ls : List Str} (h : lines s = l :: ls) :
    ∃ raw rest, s ++ ['\n'] = raw ++ '\n' :: rest ∧ '\n' ∉ raw ∧ (raw = l ∨ raw = l ++ ['\r']) ∧
      (ls ≠ [] → ∃ s', rest = s' ++ ['\n'] ∧ lines s' = ls) := by
  cases hsplit : splitOnce '\n' s with
  | some parts =>
    obtain ⟨raw, s'⟩ := parts
    -- the line ends at the first line feed
    obtain ⟨rfl, hraw⟩ := splitOnce_eq_some.mp hsplit
    rw [lines_append hraw] at h
    obtain ⟨rfl, rfl⟩ := List.cons.inj h
    refine ⟨raw, s' ++ ['\n'], by simp, hraw, dropCr_eq_or raw, ?_⟩
    intro _
    exact ⟨s', rfl, rfl⟩
  | none =>
    -- no line feed: the text is its last line
    have hs : '\n' ∉ s := by
      intro hmem
      obtain ⟨a, b, rfl, ha⟩ := List.eq_append_cons_of_mem hmem
      rw [splitOnce_append b ha] at hsplit
      cases hsplit
    have hne : s ≠ [] := by
      intro hnil
      rw [hnil] at h
      cases h
    rw [lines_of_not_mem hs hne] at h
    obtain ⟨rfl, rfl⟩ := List.cons.inj h
    exact ⟨s, [], rfl, hs, .inl rfl, fun hls => absurd rfl hls⟩

/-- Two line feeds meet only where a line is empty. -/
theorem not_infix_terminated {ls : List Str} (hne : ∀ l ∈ ls, l ≠ []) (h : ∀ l ∈ ls, '\n' ∉ l) :
    ¬ ['\n', '\n'] <:+: terminated ls := by
  induction ls with
  | nil => simp
  | cons l ls ih =>
    obtain ⟨-, hne⟩ := List.forall_mem_cons.mp hne
    obtain ⟨hl, hls⟩ := List.forall_mem_cons.mp h
    rw [terminated_cons, infix_append_iff_of_not_mem hl, List.infix_cons_iff, not_or]
    refine ⟨?_, ih hne hls⟩
    rw [List.cons_prefix_cons, not_and]
    intro _ hstart
    -- the next line would start with a line feed
    cases ls with
    | nil => simp at hstart
    | cons m ls =>
      obtain ⟨c, m, rfl⟩ := List.exists_cons_of_ne_nil (hne m (by simp))
      rw [terminated_cons, List.cons_append, List.cons_prefix_cons] at hstart
      exact hls (c :: m) (by simp) (hstart.1 ▸ by simp)

/-- `char::is_whitespace`: the Unicode `White_Space` property. -/
def isWhitespace (c : Char) : Bool :=
  (9 ≤ c.toNat && c.toNat ≤ 13) || c.toNat == 0x20 || c.toNat == 0x85 || c.toNat == 0xA0
    || c.toNat == 0x1680 || (0x2000 ≤ c.toNat && c.toNat ≤ 0x200A) || c.toNat == 0x2028
    || c.toNat == 0x2029 || c.toNat == 0x202F || c.toNat == 0x205F || c.toNat == 0x3000

/-- `str::trim`. -/
def trim (s : Str) : Str := ((s.dropWhile isWhitespace).reverse.dropWhile isWhitespace).reverse

/-- White space around a text that neither starts nor ends with it is trimmed off. -/
theorem trim_eq_of {before s after : Str} (hbefore : ∀ c ∈ before, isWhitespace c = true)
    (hafter : ∀ c ∈ after, isWhitespace c = true) (hhead : ∀ c ∈ s.head?, isWhitespace c = false)
    (hlast : ∀ c ∈ s.getLast?, isWhitespace c = false) : trim (before ++ s ++ after) = s := by
  have hdrop (l : Str) (hl : ∀ c ∈ l.head?, isWhitespace c = false) :
      l.dropWhile isWhitespace = l := by
    cases l with
    | nil => rfl
    | cons c l =>
      have hc := hl c rfl
      rw [List.dropWhile_cons_of_neg (by simp [hc])]
  unfold trim
  rw [List.append_assoc, List.dropWhile_append_of_pos hbefore]
  cases s with
  | nil =>
    have hnil : after.dropWhile isWhitespace = [] := by
      rw [← List.append_nil after, List.dropWhile_append_of_pos hafter]
      rfl
    simp [hnil]
  | cons c s =>
    rw [hdrop (c :: s ++ after) hhead, List.reverse_append, List.dropWhile_append_of_pos
      (by simpa using hafter), hdrop _ (by rwa [List.head?_reverse]), List.reverse_reverse]

/-- What is trimmed off is white space. -/
theorem exists_trim (s : Str) :
    ∃ before after, s = before ++ trim s ++ after ∧ (∀ c ∈ before, isWhitespace c = true) ∧
      ∀ c ∈ after, isWhitespace c = true := by
  let rest := s.dropWhile isWhitespace
  refine ⟨s.takeWhile isWhitespace, (rest.reverse.takeWhile isWhitespace).reverse, ?_, ?_, ?_⟩
  · have hrest : trim s ++ (rest.reverse.takeWhile isWhitespace).reverse = rest := by
      rw [trim, ← List.reverse_append, List.takeWhile_append_dropWhile, List.reverse_reverse]
    rw [List.append_assoc, hrest, List.takeWhile_append_dropWhile]
  · intro c hc
    exact List.all_eq_true.mp List.all_takeWhile c hc
  · intro c hc
    exact List.all_eq_true.mp List.all_takeWhile c (List.mem_reverse.mp hc)

/-- `str::eq_ignore_ascii_case` (`Char.toLower` moves ASCII letters only). -/
def eqIgnoreAsciiCase (s t : Str) : Prop := s.map Char.toLower = t.map Char.toLower

instance (s t : Str) : Decidable (eqIgnoreAsciiCase s t) :=
  inferInstanceAs (Decidable (_ = _))

/-- Equality up to letter case is symmetric. -/
theorem eqIgnoreAsciiCase.symm {s t : Str} (h : eqIgnoreAsciiCase s t) :
    eqIgnoreAsciiCase t s := Eq.symm h

/-- Equality up to letter case is transitive. -/
theorem eqIgnoreAsciiCase.trans {s t u : Str} (h : eqIgnoreAsciiCase s t)
    (h' : eqIgnoreAsciiCase t u) : eqIgnoreAsciiCase s u := Eq.trans h h'

end Wire
