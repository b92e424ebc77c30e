import AttestationVerify.Wire.Text
import Mathlib.Data.List.Flatten
import Mathlib.Tactic.Common

namespace Wire.Asn1

/-!
# Canonical DER

A value is a tag, the length of its content and the content, and the content of a constructed value
is the values in it one after another.  The length has two forms: one byte below 128, and otherwise
its own bytes, counted by the byte before them.

* `tlv`, `contents` — the encodings;
* `length_tlv_mono` — a longer content never has a shorter encoding, the two forms included;
* `readTlv_tlv`, `readConstructed_tlv` — reading undoes encoding.
-/

/-! ### Lengths -/

/-- `n` in as few bytes as hold it, most significant first. -/
def bigEndian (n : ℕ) : Bytes :=
  if n = 0 then [] else bigEndian (n / 256) ++ [UInt8.ofNat n]

/-- The number that big-endian octets spell. -/
def ofBigEndian (b : Bytes) : ℕ := b.foldl (fun n x => n * 256 + x.toNat) 0

/-- The length octets of DER: one up to 127, and a counted number from there on. -/
def lengthOctets (n : ℕ) : Bytes :=
  if n < 128 then [UInt8.ofNat n]
  else UInt8.ofNat (128 + (bigEndian n).length) :: bigEndian n

/-- Octets are read back as the number they were written for. -/
theorem ofBigEndian_bigEndian (n : ℕ) : ofBigEndian (bigEndian n) = n := by
  induction n using Nat.strong_induction_on with
  | _ n ih =>
    rw [bigEndian]
    by_cases hn : n = 0
    · rw [if_pos hn, hn]
      rfl
    · have hhigh := ih (n / 256) (by omega)
      unfold ofBigEndian at hhigh ⊢
      rw [if_neg hn, List.foldl_append, hhigh, List.foldl_cons, List.foldl_nil, UInt8.toNat_ofNat']
      omega

/-- A larger number takes no fewer octets. -/
theorem length_bigEndian_mono {m n : ℕ} (h : m ≤ n) :
    (bigEndian m).length ≤ (bigEndian n).length := by
  induction n using Nat.strong_induction_on generalizing m with
  | _ n ih =>
    by_cases hm : m = 0
    · subst hm
      rw [bigEndian, if_pos rfl]
      exact Nat.zero_le _
    · have hhigh : (bigEndian (m / 256)).length ≤ (bigEndian (n / 256)).length :=
        ih (n / 256) (by omega) (by omega)
      rw [bigEndian.eq_def m, bigEndian.eq_def n, if_neg hm, if_neg (by omega), List.length_append,
        List.length_append]
      exact Nat.add_le_add_right hhigh _

/-- A larger length takes no fewer octets. -/
theorem length_lengthOctets_mono {m n : ℕ} (h : m ≤ n) :
    (lengthOctets m).length ≤ (lengthOctets n).length := by
  have hbytes := length_bigEndian_mono h
  unfold lengthOctets
  by_cases hm : m < 128
  · -- the short form is the shortest there is
    rw [if_pos hm]
    split <;> simp
  · rw [if_neg hm, if_neg (by omega), List.length_cons, List.length_cons]
    exact Nat.add_le_add_right hbytes 1

/-! ### Values -/

/-- One value. -/
def tlv (tag : UInt8) (content : Bytes) : Bytes :=
  tag :: (lengthOctets content.length ++ content)

/-- Values one after another. -/
def contents (items : List (UInt8 × Bytes)) : Bytes := items.flatMap fun item => tlv item.1 item.2

@[simp] theorem contents_nil : contents [] = [] := rfl

/-- Contents are encoded one after another. -/
@[simp] theorem contents_cons (item : UInt8 × Bytes) (items : List (UInt8 × Bytes)) :
    contents (item :: items) = tlv item.1 item.2 ++ contents items := rfl

/-- Two runs of values are encoded one after the other. -/
@[simp] theorem contents_append (items items' : List (UInt8 × Bytes)) :
    contents (items ++ items') = contents items ++ contents items' := List.flatMap_append

/-- Longer content makes no shorter encoding. -/
theorem length_tlv_mono {content content' : Bytes} (tag tag' : UInt8)
    (h : content.length ≤ content'.length) :
    (tlv tag content).length ≤ (tlv tag' content').length := by
  have hlength := length_lengthOctets_mono h
  simp only [tlv, List.length_cons, List.length_append]
  omega

/-- An encoding is longer than its content. -/
theorem length_le_tlv (tag : UInt8) (content : Bytes) :
    content.length < (tlv tag content).length := by
  simp only [tlv, List.length_cons, List.length_append]
  omega

/-- Contents with items left out are no longer. -/
theorem length_contents_mono {items items' : List (UInt8 × Bytes)} (h : items.Sublist items') :
    (contents items).length ≤ (contents items').length :=
  (h.flatMap fun item => tlv item.1 item.2).length_le

/-- A value is no longer than what it stands in. -/
theorem length_tlv_le_contents {item : UInt8 × Bytes} {items : List (UInt8 × Bytes)}
    (h : item ∈ items) : (tlv item.1 item.2).length ≤ (contents items).length := by
  have hmono := length_contents_mono (List.singleton_sublist.mpr h)
  rwa [contents_cons, contents_nil, List.append_nil] at hmono

/-! ### Object identifiers -/

/-- The digits of `n` in base 128, each marked as followed by another. -/
def base128Leading (n : ℕ) : Bytes :=
  if n = 0 then [] else base128Leading (n / 128) ++ [UInt8.ofNat (128 + n % 128)]

/-- A number in base 128, all octets but the last with their high bit set. -/
def base128 (n : ℕ) : Bytes := base128Leading (n / 128) ++ [UInt8.ofNat (n % 128)]

/-- The content of an identifier: its first two arcs share a number. -/
def objectIdentifier : List ℕ → Bytes
  | first :: second :: rest => ((40 * first + second) :: rest).flatMap base128
  | _ => []

/-! ### Reading -/

/-- A length in the one form it has. -/
def readLength : Bytes → Option (ℕ × Bytes)
  | [] => none
  | b :: rest =>
    if b.toNat < 128 then some (b.toNat, rest)
    else
      let octets := rest.take (b.toNat - 128)
      if lengthOctets (ofBigEndian octets) = b :: octets then
        some (ofBigEndian octets, rest.drop (b.toNat - 128))
      else none

/-- One encoding off the front: its tag, its content and what is left. -/
def readTlv : Bytes → Option ((UInt8 × Bytes) × Bytes)
  | [] => none
  | tag :: rest =>
    match readLength rest with
    | none => none
    | some (n, rest) => if rest.length < n then none else some ((tag, rest.take n), rest.drop n)

/-- All values of a content, at most `fuel`. -/
def readContents : ℕ → Bytes → Option (List (UInt8 × Bytes))
  | _, [] => some []
  | 0, _ :: _ => none
  | fuel + 1, bytes =>
    match readTlv bytes with
    | none => none
    | some (item, rest) => (readContents fuel rest).map (item :: ·)

/-- The values in one constructed value with nothing after it. -/
def readConstructed (tag : UInt8) (bytes : Bytes) : Option (List (UInt8 × Bytes)) :=
  match readTlv bytes with
  | none => none
  | some ((tag', content), rest) =>
    if tag' = tag ∧ rest = [] then readContents content.length content else none

/-- The long form counts the length's bytes in seven bits, the last pattern of which is reserved. -/
def Representable (n : ℕ) : Prop := (bigEndian n).length < 127

/-- A length below a representable one is representable. -/
theorem Representable.of_le {m n : ℕ} (hn : Representable n) (h : m ≤ n) : Representable m :=
  (length_bigEndian_mono h).trans_lt hn

/-- A representable length is read back as written. -/
theorem readLength_lengthOctets {n : ℕ} (hn : Representable n) (rest : Bytes) :
    readLength (lengthOctets n ++ rest) = some (n, rest) := by
  unfold lengthOctets
  by_cases hshort : n < 128
  · have hbyte : (UInt8.ofNat n).toNat = n := by
      rw [UInt8.toNat_ofNat']
      omega
    rw [if_pos hshort, List.singleton_append, readLength, if_pos (by omega), hbyte]
  · have hcount :
        (UInt8.ofNat (128 + (bigEndian n).length)).toNat = 128 + (bigEndian n).length := by
      unfold Representable at hn
      rw [UInt8.toNat_ofNat']
      omega
    rw [if_neg hshort, List.cons_append, readLength, if_neg (by omega)]
    simp only [hcount, Nat.add_sub_cancel_left, List.take_left, List.drop_left,
      ofBigEndian_bigEndian]
    rw [if_pos]
    rw [lengthOctets, if_neg hshort]

/-- An encoding whose content has a representable length is read back. -/
theorem readTlv_tlv (tag : UInt8) {content : Bytes} (h : Representable content.length)
    (rest : Bytes) : readTlv (tlv tag content ++ rest) = some ((tag, content), rest) := by
  unfold tlv
  rw [List.cons_append, List.append_assoc, readTlv, readLength_lengthOctets h]
  simp

/-- What is read off a content is what it was put together from. -/
theorem readContents_contents {items : List (UInt8 × Bytes)} {fuel : ℕ}
    (hfuel : items.length ≤ fuel) (h : ∀ item ∈ items, Representable item.2.length) :
    readContents fuel (contents items) = some items := by
  induction items generalizing fuel with
  | nil => cases fuel <;> rfl
  | cons item items ih =>
    obtain ⟨hitem, hitems⟩ := List.forall_mem_cons.mp h
    cases fuel with
    | zero => simp at hfuel
    | succ fuel =>
      have hrest := ih (Nat.le_of_succ_le_succ hfuel) hitems
      rw [contents_cons]
      have hread := readTlv_tlv item.1 hitem (contents items)
      unfold tlv at hread ⊢
      rw [List.cons_append] at hread ⊢
      simp only [readContents, hread, hrest, Option.map_some]

/-- Every item takes at least one octet. -/
theorem length_le_contents (items : List (UInt8 × Bytes)) :
    items.length ≤ (contents items).length := by
  induction items with
  | nil => exact Nat.le_refl 0
  | cons item items ih =>
    have hitem := length_le_tlv item.1 item.2
    rw [contents_cons, List.length_append, List.length_cons]
    omega

/-- A constructed encoding is read back item by item. -/
theorem readConstructed_tlv (tag : UInt8) {items : List (UInt8 × Bytes)}
    (h : Representable (contents items).length) :
    readConstructed tag (tlv tag (contents items)) = some items := by
  have hread := readTlv_tlv tag h []
  rw [List.append_nil] at hread
  rw [readConstructed, hread]
  simp only [and_self, if_true]
  refine readContents_contents (length_le_contents items) fun item hitem => h.of_le ?_
  exact (length_le_tlv item.1 item.2).le.trans (length_tlv_le_contents hitem)

end Wire.Asn1
