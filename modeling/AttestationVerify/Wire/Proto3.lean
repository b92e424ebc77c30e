import AttestationVerify.Wire.Base64
import AttestationVerify.Wire.Numeral
import AttestationVerify.Wire.Serde

namespace Wire.Proto3

open Wire.Json Wire.Serde

/-!
# The proto3 JSON mapping

How a message field is printed by default: 64-bit integers as decimal strings, bytes as padded
base64, and a field equal to its zero value, or an empty repeated field, not at all.  A field is an
`Option Value`, to be put into an object by `Json.fields`.

The `…_step` rules read such a field back with a serde reader; `uint64_missing` is the one that
does not succeed, since a zero is not there to be read.
-/

/-- A string field, left out when it is empty. -/
def text (s : Str) : Option Value := if s = [] then none else some (.string s)

/-- A bytes field, in base64. -/
def bytes (b : Bytes) : Option Value := if b = [] then none else some (.string (Base64.encode b))

/-- A 64-bit field, printed as a string and left out when it is zero. -/
def uint64 (n : UInt64) : Option Value :=
  if n = 0 then none else some (.string (decimal n.toNat))

/-- A repeated field, left out when it has no items. -/
def repeated (vs : List Value) : Option Value := if vs = [] then none else some (.array vs)

/-- A string with characters is printed. -/
theorem text_of_ne {s : Str} (h : s ≠ []) : text s = some (.string s) := if_neg h

/-- Bytes are printed, if there are any. -/
theorem bytes_of_ne {b : Bytes} (h : b ≠ []) : bytes b = some (.string (Base64.encode b)) :=
  if_neg h

/-- A number other than zero is printed. -/
theorem uint64_of_ne {n : UInt64} (h : n ≠ 0) : uint64 n = some (.string (decimal n.toNat)) :=
  if_neg h

/-- Zero is left out. -/
@[simp] theorem uint64_zero : uint64 0 = none := if_pos rfl

/-! ### Strictness -/

/-- A string field repeats no name. -/
@[simp] theorem strictField_text (s : Str) : StrictField (text s) := by
  intro v h
  unfold text at h
  split at h
  · simp at h
  · exact Option.some.inj h ▸ strict_string _

/-- A bytes field repeats no name. -/
@[simp] theorem strictField_bytes (b : Bytes) : StrictField (bytes b) := by
  intro v h
  unfold bytes at h
  split at h
  · simp at h
  · exact Option.some.inj h ▸ strict_string _

/-- A number field repeats no name. -/
@[simp] theorem strictField_uint64 (n : UInt64) : StrictField (uint64 n) := by
  intro v h
  unfold uint64 at h
  split at h
  · simp at h
  · exact Option.some.inj h ▸ strict_string _

/-- A repeated field repeats no name that its messages do not. -/
theorem strictField_repeated {γ : Type} {g : γ → Value} {xs : List γ}
    (hg : ∀ x ∈ xs, (g x).Strict) : StrictField (repeated (xs.map g)) := by
  intro v h
  unfold repeated at h
  split at h
  · simp at h
  · obtain rfl := Option.some.inj h
    simpa using hg

/-! ### Reading fields back -/

section Reading

variable {α β γ : Type} {name : String} {m : Members}

/-- A string that was printed is read back. -/
theorem text_step {s : Str} {k : Str → FieldReader β} (hs : s ≠ [])
    (hlookup : member m name = text s) :
    (required name string >>= k) (.members m) = k s (.members m) :=
  required_step (hlookup.trans (text_of_ne hs)) rfl

/-- The base64 of bytes that were printed is read back. -/
theorem bytes_step {b : Bytes} {k : Str → FieldReader β} (hb : b ≠ [])
    (hlookup : member m name = bytes b) :
    (required name string >>= k) (.members m) = k (Base64.encode b) (.members m) :=
  required_step (hlookup.trans (bytes_of_ne hb)) rfl

/-- The digits of a number other than zero are read back. -/
theorem uint64_step {n : UInt64} {k : Str → FieldReader β} (hn : n ≠ 0)
    (hlookup : member m name = uint64 n) :
    (required name string >>= k) (.members m) = k (decimal n.toNat) (.members m) :=
  required_step (hlookup.trans (uint64_of_ne hn)) rfl

/-- A zero is omitted, and a required field refuses its absence. -/
theorem uint64_missing {n : UInt64} {k : Str → FieldReader β} (hn : n = 0)
    (hlookup : member m name = uint64 n) :
    (required name string >>= k) (.members m) = none :=
  required_missing (by rw [hlookup, hn, uint64_zero])

/-- A list is read back item by item, printed or left out. -/
theorem repeated_step {d : Decoder α} (g : γ → Value) (f : γ → α) (xs : List γ)
    {k : List α → FieldReader β} (h : ∀ x ∈ xs, d (g x) = some (f x))
    (hlookup : member m name = repeated (xs.map g)) :
    (defaulted name (seq d) [] >>= k) (.members m) = k (xs.map f) (.members m) := by
  by_cases hxs : xs = []
  · subst hxs
    exact defaulted_missing hlookup
  · have hsome : repeated (xs.map g) = some (.array (xs.map g)) := if_neg (by simpa using hxs)
    exact defaulted_step (hlookup.trans hsome) (seq_map h)

/-- A repeated field with an item that does not decode. -/
theorem repeated_mistyped {d : Decoder α} (g : γ → Value) {xs : List γ} {x : γ}
    {k : List α → FieldReader β} (hx : x ∈ xs) (h : d (g x) = none)
    (hlookup : member m name = repeated (xs.map g)) :
    (defaulted name (seq d) [] >>= k) (.members m) = none := by
  have hsome : repeated (xs.map g) = some (.array (xs.map g)) :=
    if_neg (by rw [List.map_eq_nil_iff]; rintro rfl; simp at hx)
  exact defaulted_mistyped (hlookup.trans hsome) (seq_none hx h)

/-- An optional message, absent when unset. -/
theorem optional_step {d : Decoder α} (g : γ → Value) (f : γ → α) (o : Option γ)
    {k : Option α → FieldReader β} (hg : ∀ x, g x ≠ .null)
    (h : ∀ x, o = some x → d (g x) = some (f x))
    (hlookup : member m name = o.map g) :
    (defaulted name (nullable d) none >>= k) (.members m) = k (o.map f) (.members m) := by
  cases o with
  | none => exact defaulted_missing hlookup
  | some x =>
    refine defaulted_step hlookup ?_
    have hx := h x rfl
    have hne := hg x
    generalize g x = v at hx hne
    cases v with
    | null => exact absurd rfl hne
    | _ => simp [nullable, hx]

/-- A message that cannot be read back fails the whole. -/
theorem optional_mistyped {d : Decoder α} (g : γ → Value) {o : Option γ} {x : γ}
    {k : Option α → FieldReader β} (hg : g x ≠ .null) (ho : o = some x) (h : d (g x) = none)
    (hlookup : member m name = o.map g) :
    (defaulted name (nullable d) none >>= k) (.members m) = none := by
  subst ho
  refine defaulted_mistyped hlookup ?_
  generalize g x = v at h hg
  cases v with
  | null => exact absurd rfl hg
  | _ => simp [nullable, h]

end Reading

end Wire.Proto3
