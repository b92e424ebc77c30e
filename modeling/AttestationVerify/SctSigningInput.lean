import AttestationVerify.SctCodec

namespace AttestationVerify

open Wire Wire.Cursor

/-!
# The bytes an SCT signs

The `digitally-signed` structure of a `precert_entry`: fixed fields, the precertificate under a
length of three bytes and the extensions under a length of two.

* `digitallySignedBytesChecked` — the function with its integer conversions as `sct.rs` has them;
* `SigningInput` — what is signed, its lengths within their prefixes, and how it is laid out;
* `decodes_takeSigningInput` — a layout is read back as the one input it is of;
* `digitallySignedBytes_authenticates` — the function fails on what does not fit and never
  truncates, so an SCT that verifies is over one input.
-/

/-! ### The conversions -/

/-- `u32::try_from` of a length. -/
def u32TryFrom (n : ℕ) : Option UInt32 := if n < 2 ^ 32 then some (UInt32.ofNat n) else none

/-- `u16::try_from` of a length. -/
def u16TryFrom (n : ℕ) : Option UInt16 := if n < 2 ^ 16 then some (UInt16.ofNat n) else none

/-- `digitally_signed_bytes` with its two length conversions as they can fail. -/
def digitallySignedBytesChecked (timestampMs : UInt64) (issuerKeyHash : Octets 32)
    (precertTbs ctExtensions : Bytes) : Except Error Bytes := do
  let tbsLen ← okOr (u32TryFrom precertTbs.length) sctInvalid
  ensure (¬ 0x00FFFFFF < tbsLen) sctInvalid
  let ctExtLen ← okOr (u16TryFrom ctExtensions.length) sctInvalid
  -- of the four bytes of the first length the last three are written
  pure (sctVersionV1 :: signatureTypeCertificateTimestamp :: (toBeBytes 8 timestampMs.toNat ++
    toBeBytes 2 logEntryTypePrecert ++ issuerKeyHash.bytes ++ (toBeBytes 4 tbsLen.toNat).drop 1 ++
    precertTbs ++ toBeBytes 2 ctExtLen.toNat ++ ctExtensions))

/-- Dropping the top byte leaves the encoding in one byte less. -/
theorem drop_toBeBytes (k n : ℕ) : (toBeBytes (k + 1) n).drop 1 = toBeBytes k n := by
  induction k generalizing n with
  | zero => rfl
  | succ k ih =>
    have hlength : 1 ≤ (toBeBytes (k + 1) (n / 256)).length := by
      rw [length_toBeBytes]
      exact Nat.le_add_left 1 k
    calc (toBeBytes (k + 2) n).drop 1
        = (toBeBytes (k + 1) (n / 256)).drop 1 ++ [UInt8.ofNat n] := by
          rw [toBeBytes, List.drop_append_of_le_length hlength]
      _ = toBeBytes (k + 1) n := by rw [ih]; rfl

/-- The conversions lose nothing: a length that fits its prefix is written as it is. -/
theorem digitallySignedBytesChecked_eq (timestampMs : UInt64) (issuerKeyHash : Octets 32)
    (precertTbs ctExtensions : Bytes) :
    digitallySignedBytesChecked timestampMs issuerKeyHash precertTbs ctExtensions =
      digitallySignedBytes timestampMs issuerKeyHash precertTbs ctExtensions := by
  unfold digitallySignedBytesChecked digitallySignedBytes
  by_cases hword : precertTbs.length < 2 ^ 32
  · -- the comparison is between numbers
    have hvalue : (UInt32.ofNat precertTbs.length).toNat = precertTbs.length := by
      rw [UInt32.toNat_ofNat', Nat.mod_eq_of_lt hword]
    have hbound :
        ¬ 0x00FFFFFF < UInt32.ofNat precertTbs.length ↔ precertTbs.length ≤ 0x00FFFFFF := by
      rw [UInt32.lt_iff_toNat_lt, hvalue, Nat.not_lt]
      rfl
    simp only [u32TryFrom, if_pos hword, okOr_some, ok_bind, hvalue, drop_toBeBytes]
    by_cases hfit : precertTbs.length ≤ 0x00FFFFFF
    · rw [ensure_of (hbound.mpr hfit), ensure_of hfit, ok_bind, ok_bind]
      by_cases hext : ctExtensions.length < 2 ^ 16
      · have hextValue : (UInt16.ofNat ctExtensions.length).toNat = ctExtensions.length := by
          rw [UInt16.toNat_ofNat', Nat.mod_eq_of_lt hext]
        rw [u16TryFrom, if_pos hext, ensure_of hext, okOr_some, ok_bind, ok_bind, hextValue]
      · rw [u16TryFrom, if_neg hext, ensure_not hext, okOr_none, error_bind, error_bind]
    · rw [ensure_not (fun h => hfit (hbound.mp h)), ensure_not hfit, error_bind, error_bind]
  · have hfit : ¬ precertTbs.length ≤ 0x00FFFFFF := by omega
    rw [u32TryFrom, if_neg hword, ensure_not hfit, okOr_none, error_bind, error_bind]

/-! ### The layout -/

/-- What an SCT is over.  Both strings have a length that its prefix can hold. -/
structure SigningInput where
  timestampMs : UInt64
  issuerKeyHash : Octets 32
  precertTbs : Bytes
  ctExtensions : Bytes
  precert_lt : precertTbs.length < 2 ^ 24
  extensions_lt : ctExtensions.length < 2 ^ 16

/-- Version 1, `certificate_timestamp`, the time, `precert_entry`, the entry and the extensions. -/
def SigningInput.encode (input : SigningInput) : Bytes :=
  [0] ++ ([0] ++ (toBeBytes 8 input.timestampMs.toNat ++ (toBeBytes 2 1 ++
    (input.issuerKeyHash.bytes ++ (toBeBytes 3 input.precertTbs.length ++ input.precertTbs ++
      (toBeBytes 2 input.ctExtensions.length ++ input.ctExtensions))))))

/-- A reader of the signed bytes, field by field. -/
def takeSigningInput : Cursor SigningInput := do
  let version ← takeU8
  liftM (ensure (version = 0) sctInvalid)
  let signatureType ← takeU8
  liftM (ensure (signatureType = 0) sctInvalid)
  let timestampMs ← takeU64
  let entryType ← takeU16
  liftM (ensure (entryType = 1) sctInvalid)
  let issuerKeyHash ← takeArray32
  let precertTbs ← takeVectorOf 3
  let ctExtensions ← takeVector
  if h : precertTbs.length < 2 ^ 24 ∧ ctExtensions.length < 2 ^ 16 then
    pure ⟨timestampMs, issuerKeyHash, precertTbs, ctExtensions, h.1, h.2⟩
  else liftM (Except.error sctInvalid)

/-- The reader reads back exactly what `encode` writes. -/
theorem decodes_takeSigningInput :
    Decodes takeSigningInput SigningInput.encode fun _ => True := by
  intro cursor input rest
  simp only [takeSigningInput, decodes_takeU8.bind_eq_ok, decodes_takeU64.bind_eq_ok,
    decodes_takeU16.bind_eq_ok, decodes_takeArray32.bind_eq_ok, (decodes_takeVectorOf 3).bind_eq_ok,
    decodes_takeVector.bind_eq_ok, bind_apply_eq_ok, lift_apply_eq_ok, ensure_eq_ok]
  constructor
  · rintro ⟨_, -, _, rfl, _, _, ⟨rfl, rfl⟩, _, -, _, rfl, _, _, ⟨rfl, rfl⟩, timestampMs, -, _, rfl,
      _, -, _, rfl, _, _, ⟨rfl, rfl⟩, issuerKeyHash, -, _, rfl, precertTbs, hprecert, _, rfl,
      ctExtensions, hextensions, _, rfl, h⟩
    rw [dif_pos ⟨hprecert, hextensions⟩, pure_apply_eq_ok] at h
    obtain ⟨rfl, rfl⟩ := h
    exact ⟨trivial, by simp only [SigningInput.encode, List.append_assoc]⟩
  · rintro ⟨-, rfl⟩
    refine ⟨0, trivial, _, List.append_assoc _ _ _, (), _, ⟨rfl, rfl⟩, 0, trivial, _,
      List.append_assoc _ _ _, (), _, ⟨rfl, rfl⟩, input.timestampMs, trivial, _,
      List.append_assoc _ _ _, 1, by decide, _, List.append_assoc _ _ _, (), _, ⟨rfl, rfl⟩,
      input.issuerKeyHash, trivial, _, List.append_assoc _ _ _, input.precertTbs, input.precert_lt,
      _, List.append_assoc _ _ _, input.ctExtensions, input.extensions_lt, rest, rfl, ?_⟩
    rw [dif_pos ⟨input.precert_lt, input.extensions_lt⟩]
    rfl

/-- Two inputs with the same signed bytes are the same. -/
theorem SigningInput.encode_inj {input input' : SigningInput} :
    input.encode = input'.encode ↔ input = input' := by
  constructor
  · intro h
    have hrows : input.encode ++ [] = input'.encode ++ [] := by rw [h]
    exact (decodes_takeSigningInput.append_inj trivial trivial hrows).1
  · intro h
    rw [h]

/-! ### What is signed -/

/-- Whatever is signed is the layout of what it was asked to sign. -/
theorem digitallySignedBytes_eq_ok {timestampMs : UInt64} {issuerKeyHash : Octets 32}
    {precertTbs ctExtensions message : Bytes} :
    digitallySignedBytes timestampMs issuerKeyHash precertTbs ctExtensions = .ok message ↔
      ∃ input : SigningInput, input.timestampMs = timestampMs ∧
        input.issuerKeyHash = issuerKeyHash ∧ input.precertTbs = precertTbs ∧
        input.ctExtensions = ctExtensions ∧ input.encode = message := by
  simp only [digitallySignedBytes, bind_eq_ok, ensure_eq_ok, pure_eq_ok, Except.ok.injEq]
  constructor
  · rintro ⟨_, hprecert, _, hextensions, rfl⟩
    refine ⟨⟨timestampMs, issuerKeyHash, precertTbs, ctExtensions, Nat.lt_succ_of_le hprecert,
      hextensions⟩, rfl, rfl, rfl, rfl, ?_⟩
    simp only [SigningInput.encode, sctVersionV1, signatureTypeCertificateTimestamp,
      logEntryTypePrecert, List.append_assoc, List.singleton_append]
  · rintro ⟨input, rfl, rfl, rfl, rfl, rfl⟩
    refine ⟨(), Nat.le_of_lt_succ input.precert_lt, (), input.extensions_lt, ?_⟩
    simp only [SigningInput.encode, sctVersionV1, signatureTypeCertificateTimestamp,
      logEntryTypePrecert, List.append_assoc, List.singleton_append]

/-- One message is of one input only. -/
theorem digitallySignedBytes_inj {t t' : UInt64} {i i' : Octets 32} {p p' c c' message : Bytes}
    (h : digitallySignedBytes t i p c = .ok message) :
    digitallySignedBytes t' i' p' c' = .ok message ↔ t' = t ∧ i' = i ∧ p' = p ∧ c' = c := by
  constructor
  · intro h'
    obtain ⟨input, rfl, rfl, rfl, rfl, rfl⟩ := digitallySignedBytes_eq_ok.mp h
    obtain ⟨input', rfl, rfl, rfl, rfl, hsame⟩ := digitallySignedBytes_eq_ok.mp h'
    obtain rfl := SigningInput.encode_inj.mp hsame
    exact ⟨rfl, rfl, rfl, rfl⟩
  · rintro ⟨rfl, rfl, rfl, rfl⟩
    exact h

/-- **What an SCT signs.**  Only lengths beyond their prefixes fail; what is signed is laid out
    without truncation and can be read back, so an SCT that verifies is over one timestamp, issuer,
    precertificate and extensions. -/
theorem digitallySignedBytes_authenticates (X : Externals) :
    (∀ timestampMs issuerKeyHash precertTbs ctExtensions e,
      digitallySignedBytesChecked timestampMs issuerKeyHash precertTbs ctExtensions = .error e ↔
        (2 ^ 24 ≤ precertTbs.length ∨ 2 ^ 16 ≤ ctExtensions.length) ∧ e = sctInvalid) ∧
    (∀ input : SigningInput,
      digitallySignedBytesChecked input.timestampMs input.issuerKeyHash input.precertTbs
          input.ctExtensions = .ok input.encode ∧
        readAll takeSigningInput input.encode = some input) ∧
    (∀ t t' i i' p p' c c' message, digitallySignedBytesChecked t i p c = .ok message →
      (digitallySignedBytesChecked t' i' p' c' = .ok message ↔
        t' = t ∧ i' = i ∧ p' = p ∧ c' = c)) ∧
    ∀ sct precertTbs issuerKeyHash trustStore,
      verifyOneSct X sct precertTbs issuerKeyHash trustStore = .ok () →
      ∃ log key message, selectCtLog X trustStore sct.logId = some log ∧
        EcdsaVerifyingKey.fromSpkiDer X log.publicKey.rawBytes = .ok key ∧
        key.verifyDer X message sct.signature = true ∧
        ∀ t i p c, digitallySignedBytesChecked t i p c = .ok message ↔
          t = sct.timestampMs ∧ i = issuerKeyHash ∧ p = precertTbs ∧ c = sct.extensions := by
  simp only [digitallySignedBytesChecked_eq]
  refine ⟨?_, ?_, ?_, ?_⟩
  · intro timestampMs issuerKeyHash precertTbs ctExtensions e
    exact digitallySignedBytes_eq_error
  · intro input
    exact ⟨digitallySignedBytes_eq_ok.mpr ⟨input, rfl, rfl, rfl, rfl, rfl⟩,
      decodes_takeSigningInput.readAll_eq_some.mpr ⟨trivial, rfl⟩⟩
  · intro t t' i i' p p' c c' message h
    exact digitallySignedBytes_inj h
  · intro sct precertTbs issuerKeyHash trustStore h
    obtain ⟨log, hlog, hsigned⟩ := verifyOneSct_eq_ok.mp h
    obtain ⟨message, key, hmessage, hkey, hverify⟩ := hsigned.signed
    exact ⟨log, key, message, hlog, hkey, hverify, fun t i p c => digitallySignedBytes_inj hmessage⟩

end AttestationVerify
