import AttestationVerify.Error
import AttestationVerify.Wire.Base64
import AttestationVerify.Wire.Numeral
import AttestationVerify.Wire.Outcome

namespace AttestationVerify

open Wire

/-!
# Strict decoding and resource limits

`limits.rs` and `parse_util.rs`.  The helpers return the crate's `Error` where the source's return
the `ParseError` or `ResourceLimitError` that every caller's `?` wraps.
-/

/-! ### `limits.rs` -/

/-- The largest input: eight MiB. -/
def maxInputBytes : ℕ := 8 * 1024 * 1024

/-- The most nodes of one JSON document. -/
def maxJsonNodes : ℕ := 262144

/-- The most log entries of a bundle. -/
def maxTlogEntries : ℕ := 32

/-- The most subjects of a statement. -/
def maxStatementSubjects : ℕ := 1024

/-- The most bundles of a set. -/
def maxBundlesPerSet : ℕ := 64

/-- The most certificates of a chain. -/
def maxCertificatesPerChain : ℕ := 128

/-- The most signature lines of a checkpoint. -/
def maxCheckpointSignatures : ℕ := 32

/-! ### `parse_util.rs` -/

variable {α : Type}

/-- `strict_base64`: standard base64 with its padding. -/
def strictBase64 (field : String) (s : Str) : Except Error Bytes :=
  okOr (Base64.decode s) (.parse (.base64 field .library))

/-- `strict_hex`: hex digits of either case, for that many bytes. -/
def strictHex (n : ℕ) (field : String) (s : Str) : Except Error (Octets n) :=
  okOr (Hex.decodeTo n s) (.parse (.hex field))

/-- `strict_stringified_u64`: a `u64` as `str::parse` reads it. -/
def strictStringifiedU64 (field : String) (s : Str) : Except Error UInt64 :=
  okOr (parseU64 s) (.parse (.notAnInteger field s))

/-- A single PEM block: exact markers after trimming, and between them base64 from which white
    space is dropped before the strict decoding. -/
def strictPem (field label : String) (s : Str) : Except Error Bytes := do
  let begin_ := "-----BEGIN ".toList ++ label.toList ++ "-----".toList
  let end_ := "-----END ".toList ++ label.toList ++ "-----".toList
  let missing (marker : Str) : Error :=
    .parse (.base64 field (.text ("missing \"".toList ++ marker ++ "\" marker".toList)))
  let afterBegin ← okOr (stripPrefix begin_ (trim s)) (missing begin_)
  let body ← okOr (stripSuffix end_ afterBegin) (missing end_)
  strictBase64 field (body.filter fun c => !isWhitespace c)

/-- The size is checked before the text is looked at. -/
def checkInputSize (bytes : Bytes) : Except Error Unit :=
  ensure (bytes.length ≤ maxInputBytes)
    (.resourceLimit (.inputTooLarge bytes.length maxInputBytes))

/-- A list longer than its limit is refused, with both numbers. -/
def checkCount (items : List α) (limit : ℕ) (makeErr : ℕ → ℕ → ResourceLimitError) :
    Except Error Unit :=
  ensure (items.length ≤ limit) (.resourceLimit (makeErr items.length limit))

/-! ### What the helpers accept -/

/-- Only the one encoding of the bytes is taken. -/
@[simp] theorem strictBase64_eq_ok {field : String} {s : Str} {b : Bytes} :
    strictBase64 field s = .ok b ↔ s = Base64.encode b := by
  unfold strictBase64
  rw [okOr_eq_ok]
  constructor
  · exact fun h => (Base64.encode_of_decode h).symm
  · rintro rfl
    exact Base64.decode_encode b

/-- Canonical base64 is taken. -/
@[simp] theorem strictBase64_encode (field : String) (b : Bytes) :
    strictBase64 field (Base64.encode b) = .ok b :=
  strictBase64_eq_ok.mpr rfl

/-- The digits of a number are read as that number. -/
@[simp] theorem strictStringifiedU64_decimal (field : String) (n : UInt64) :
    strictStringifiedU64 field (decimal n.toNat) = .ok n := by
  simp [strictStringifiedU64, parseU64_decimal]

/-- Hex is taken as the decoder takes it. -/
theorem strictHex_eq_ok {n : ℕ} {field : String} {s : Str} {o : Octets n} :
    strictHex n field s = .ok o ↔ Hex.decodeTo n s = some o := okOr_eq_ok

/-- An input is small enough, or it is not. -/
@[simp] theorem checkInputSize_eq_ok {bytes : Bytes} {u : Unit} :
    checkInputSize bytes = .ok u ↔ bytes.length ≤ maxInputBytes := ensure_eq_ok

/-- A list is short enough, or it is not. -/
@[simp] theorem checkCount_eq_ok {items : List α} {limit : ℕ}
    {makeErr : ℕ → ℕ → ResourceLimitError} {u : Unit} :
    checkCount items limit makeErr = .ok u ↔ items.length ≤ limit := ensure_eq_ok

/-! ### PEM blocks -/

/-- No symbol of an encoding is white space. -/
theorem not_isWhitespace_of_isSymbol {c : Char} (h : Base64.IsSymbol c) :
    isWhitespace c = false := by
  -- sixty-four symbols and the padding: check each
  have hall : ∀ m : Fin 64, isWhitespace (Base64.symbol m) = false := by decide +kernel
  rcases h with halphabet | rfl
  · obtain ⟨n, hn, rfl⟩ := List.getElem_of_mem halphabet
    have hsymbol : Base64.symbol n = Base64.alphabet[n] := by
      rw [Base64.symbol, List.getD_eq_getElem?_getD, List.getElem?_eq_getElem hn]
      rfl
    rw [← hsymbol]
    exact hall ⟨n, hn⟩
  · rfl

/-- There is no white space in base64. -/
theorem filter_encode (d : Bytes) :
    (Base64.encode d).filter (fun c => !isWhitespace c) = Base64.encode d := by
  rw [List.filter_eq_self]
  intro c hc
  rw [not_isWhitespace_of_isSymbol (Base64.encode_symbols d c hc), Bool.not_false]

/-- One PEM block, white space around it and anywhere in its base64. -/
theorem strictPem_of {field label : String} {before body after : Str} {d : Bytes}
    (hbefore : ∀ c ∈ before, isWhitespace c = true) (hafter : ∀ c ∈ after, isWhitespace c = true)
    (hbody : body.filter (fun c => !isWhitespace c) = Base64.encode d) :
    strictPem field label (before ++ ("-----BEGIN ".toList ++ label.toList ++ "-----".toList ++
      body ++ ("-----END ".toList ++ label.toList ++ "-----".toList)) ++ after) = .ok d := by
  have hhead : ∀ c ∈ ("-----BEGIN ".toList ++ label.toList ++ "-----".toList ++
      body ++ ("-----END ".toList ++ label.toList ++ "-----".toList)).head?,
      isWhitespace c = false := by
    intro c hc
    have hdash : c = '-' := by
      simpa using hc.symm
    subst hdash
    decide
  have hlast : ∀ c ∈ ("-----BEGIN ".toList ++ label.toList ++ "-----".toList ++
      body ++ ("-----END ".toList ++ label.toList ++ "-----".toList)).getLast?,
      isWhitespace c = false := by
    intro c hc
    have hdash : "-----".toList.getLast? = some '-' := by decide
    simp only [List.getLast?_append, hdash, Option.some_or, Option.mem_def, Option.some.injEq] at hc
    subst hc
    decide
  unfold strictPem
  dsimp only
  -- trimming stops at the dashes of the two markers
  rw [trim_eq_of hbefore hafter hhead hlast, List.append_assoc _ body, stripPrefix_append,
    okOr_some, ok_bind, stripSuffix_eq_some.mpr rfl, okOr_some, ok_bind, hbody,
    strictBase64_encode]

end AttestationVerify
