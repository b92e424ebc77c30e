import AttestationVerify.Rekor.Entry

namespace AttestationVerify

open Wire

/-!
# One PEM block

`strict_pem` trims, takes the two markers off and drops the white space of what is between them.
The markers share their dashes, and neither base64 nor white space has any: the dashes of an
accepted text are those of one pair of markers.

* `PemBlock` — a block, laid out with white space around it and inside;
* `strictPem_iff` — the accepted texts are the blocks;
* `pemBlock_layout_iff` — wherever the markers stand, only white space is outside them and only
  base64 inside;
* `not_pemBlock_of_two` — two blocks are not one;
* `strictPem_spec` — the `CERTIFICATE` block, also as the verifier of a log entry.
-/

/-- The marker before a block. -/
def pemBegin (label : String) : Str := "-----BEGIN ".toList ++ label.toList ++ "-----".toList

/-- The marker after it. -/
def pemEnd (label : String) : Str := "-----END ".toList ++ label.toList ++ "-----".toList

/-- The text `s` is one block of the bytes `d`. -/
def PemBlock (label : String) (d : Bytes) (s : Str) : Prop :=
  ∃ before body after, s = before ++ (pemBegin label ++ body ++ pemEnd label) ++ after ∧
    (∀ c ∈ before, isWhitespace c = true) ∧ (∀ c ∈ after, isWhitespace c = true) ∧
    body.filter (fun c => !isWhitespace c) = Base64.encode d

/-! ### What is accepted -/

/-- The texts taken are the blocks. -/
theorem strictPem_iff {field label : String} {s : Str} {d : Bytes} :
    strictPem field label s = .ok d ↔ PemBlock label d s := by
  constructor
  · intro h
    simp only [strictPem, bind_eq_ok, okOr_eq_ok, stripPrefix_eq_some, stripSuffix_eq_some,
      strictBase64_eq_ok] at h
    obtain ⟨afterBegin, htrim, body, rfl, hbody⟩ := h
    obtain ⟨before, after, hs, hbefore, hafter⟩ := exists_trim s
    refine ⟨before, body, after, ?_, hbefore, hafter, hbody⟩
    refine hs.trans ?_
    rw [htrim]
    unfold pemBegin pemEnd
    simp only [List.append_assoc]
  · rintro ⟨before, body, after, rfl, hbefore, hafter, hbody⟩
    unfold pemBegin pemEnd
    exact strictPem_of hbefore hafter hbody

/-! ### Where the markers stand -/

/-- A character that is neither white space nor in base64 is in the markers only. -/
theorem PemBlock.count_eq {label : String} {d : Bytes} {s : Str} (h : PemBlock label d s) {c : Char}
    (hblank : isWhitespace c = false) (hsymbol : ¬ Base64.IsSymbol c) :
    s.count c = (pemBegin label).count c + (pemEnd label).count c := by
  obtain ⟨before, body, after, rfl, hbefore, hafter, hbody⟩ := h
  have hnot {t : Str} (ht : ∀ c ∈ t, isWhitespace c = true) : t.count c = 0 := by
    refine List.count_eq_zero_of_not_mem fun hc => ?_
    rw [ht c hc] at hblank
    cases hblank
  have hinside : body.count c = 0 := by
    refine List.count_eq_zero_of_not_mem fun hc => ?_
    have hencoded : c ∈ Base64.encode d := by
      rw [← hbody]
      exact List.mem_filter.mpr ⟨hc, by rw [hblank]; rfl⟩
    exact Base64.not_mem_encode hsymbol d hencoded
  simp only [List.count_append, hnot hbefore, hnot hafter, hinside]
  omega

/-- Every dash of a block is in its markers. -/
theorem PemBlock.count_dash {label : String} {d : Bytes} {s : Str} (h : PemBlock label d s) :
    s.count '-' = (pemBegin label).count '-' + (pemEnd label).count '-' :=
  h.count_eq (by decide) (by decide)

/-- A first marker starts with a dash. -/
theorem head?_pemBegin (label : String) : (pemBegin label).head? = some '-' := rfl

/-- A last line of a block opens with a dash. -/
theorem head?_pemEnd (label : String) : (pemEnd label).head? = some '-' := rfl

/-- Wherever the two markers are taken from, what is outside them is white space and what is inside
    is the base64. -/
theorem pemBlock_layout_iff {label : String} {before body after : Str} {d : Bytes} :
    PemBlock label d (before ++ (pemBegin label ++ body ++ pemEnd label) ++ after) ↔
      (∀ c ∈ before, isWhitespace c = true) ∧ (∀ c ∈ after, isWhitespace c = true) ∧
        body.filter (fun c => !isWhitespace c) = Base64.encode d := by
  constructor
  · intro h
    -- these markers have all the dashes there are
    have hcount := h.count_dash
    simp only [List.count_append] at hcount
    have hnone {t : Str} (ht : t.count '-' = 0) : '-' ∉ t := List.count_eq_zero.mp ht
    obtain ⟨before', body', after', hs, hbefore, hafter, hbody⟩ := h
    have hcount' := congrArg (List.count '-') hs
    simp only [List.count_append] at hcount'
    simp only [List.append_assoc] at hs
    obtain ⟨rfl, hrest⟩ := append_delimited_inj (head?_pemBegin label) (hnone (by omega))
      (hnone (by omega)) hs
    obtain ⟨rfl, rfl⟩ := append_delimited_inj (head?_pemEnd label) (hnone (by omega))
      (hnone (by omega)) hrest
    exact ⟨hbefore, hafter, hbody⟩
  · intro h
    exact ⟨before, body, after, rfl, h⟩

/-- A marker has ten dashes and those of its label. -/
theorem count_dash_pemBegin (label : String) :
    (pemBegin label).count '-' = 10 + label.toList.count '-' := by
  have hopen : "-----BEGIN ".toList.count '-' = 5 := by decide +kernel
  have hclose : "-----".toList.count '-' = 5 := by decide +kernel
  unfold pemBegin
  generalize label.toList = name
  rw [List.count_append, List.count_append, hopen, hclose]
  omega

/-- A last marker has as many dashes as a first one. -/
theorem count_dash_pemEnd (label : String) :
    (pemEnd label).count '-' = 10 + label.toList.count '-' := by
  have hopen : "-----END ".toList.count '-' = 5 := by decide +kernel
  have hclose : "-----".toList.count '-' = 5 := by decide +kernel
  unfold pemEnd
  generalize label.toList = name
  rw [List.count_append, List.count_append, hopen, hclose]
  omega

/-- One block leaves no dashes for two, whatever their labels and whatever is around them. -/
theorem not_pemBlock_of_two {label label₁ label₂ : String} {d d₁ d₂ : Bytes}
    {before s₁ between s₂ after : Str} (hlabel : '-' ∉ label.toList) (h₁ : PemBlock label₁ d₁ s₁)
    (h₂ : PemBlock label₂ d₂ s₂) :
    ¬ PemBlock label d (before ++ s₁ ++ between ++ s₂ ++ after) := by
  intro h
  have hcount := h.count_dash
  have hnone : label.toList.count '-' = 0 := List.count_eq_zero_of_not_mem hlabel
  simp only [List.count_append, h₁.count_dash, h₂.count_dash, count_dash_pemBegin,
    count_dash_pemEnd, hnone] at hcount
  omega

/-- What is in a block is base64 and white space. -/
theorem symbol_or_blank {body : Str} {d : Bytes}
    (h : body.filter (fun c => !isWhitespace c) = Base64.encode d) {c : Char} (hc : c ∈ body) :
    isWhitespace c = true ∨ Base64.IsSymbol c := by
  cases hblank : isWhitespace c with
  | true => exact .inl rfl
  | false =>
    refine .inr (Base64.encode_symbols d c ?_)
    rw [← h]
    exact List.mem_filter.mpr ⟨hc, by rw [hblank]; rfl⟩

/-! ### The verifier of a log entry -/

/-- What a body is decoded from: the verifier is the base64 of the text of one block. -/
structure DecodedFrom (raw : RawTlogEntryBody) (rawSignature : RawDsseSpecSignature)
    (text : Str) (body : TlogEntryBody) : Prop where
  supported : raw.kind = tlogEntryKind ∧ raw.apiVersion = tlogEntryApiVersion
  kind : body.kind = raw.kind
  apiVersion : body.apiVersion = raw.apiVersion
  signatures : raw.spec.signatures = [rawSignature]
  envelopeHash : strictHex 32 "spec.envelopeHash.value" raw.spec.envelopeHash.value =
    .ok body.envelopeHash
  payloadHash : strictHex 32 "spec.payloadHash.value" raw.spec.payloadHash.value =
    .ok body.payloadHash
  signature : rawSignature.signature = Base64.encode body.signature
  verifier : rawSignature.verifier = Base64.encode (utf8 text)
  certificate : PemBlock "CERTIFICATE" body.verifierCertificateDer text

/-- A body is decoded from its mirror, the certificate out of its block. -/
theorem TlogEntryBody.fromRaw_eq_ok {raw : RawTlogEntryBody} {body : TlogEntryBody} :
    TlogEntryBody.fromRaw raw = .ok body ↔ ∃ rawSignature text,
      DecodedFrom raw rawSignature text body := by
  unfold TlogEntryBody.fromRaw
  rw [bind_eq_ok]
  simp only [ensure_eq_ok]
  constructor
  · rintro ⟨_, hsupported, h⟩
    split at h
    · rename_i rawSignature hsignatures
      simp only [pure_eq_ok, ok_bind, bind_eq_ok, Except.ok.injEq, okOr_eq_ok, strictBase64_eq_ok,
        fromUtf8_eq_some, strictPem_iff] at h
      obtain ⟨envelopeHash, henvelope, payloadHash, hpayload, signature, hsignature, _, hverifier,
        text, rfl, der, hder, rfl⟩ := h
      exact ⟨rawSignature, text, hsupported, rfl, rfl, hsignatures, henvelope, hpayload,
        hsignature, hverifier, hder⟩
    · cases h
  · rintro ⟨rawSignature, text, h⟩
    refine ⟨(), h.supported, ?_⟩
    have htext : fromUtf8 (utf8 text) = some text := fromUtf8_eq_some.mpr rfl
    have hcertificate : strictPem "spec.signatures[].verifier" "CERTIFICATE" text =
        .ok body.verifierCertificateDer :=
      strictPem_iff.mpr h.certificate
    simp only [h.signatures, pure_eq_ok, ok_bind, h.envelopeHash, h.payloadHash, h.signature,
      h.verifier, strictBase64_encode, htext, okOr_some, hcertificate, ← h.kind, ← h.apiVersion]

/-- **`strict_pem` reads one block.**  The texts it takes are one block with white space around it
    and in its base64, whatever else the text is cut into; and the verifier of a log entry is the
    certificate that was encoded there. -/
theorem strictPem_spec (X : Externals) (field : String) :
    (∀ s d, strictPem field "CERTIFICATE" s = .ok d ↔ PemBlock "CERTIFICATE" d s) ∧
    (∀ before body after d,
      strictPem field "CERTIFICATE"
          (before ++ (pemBegin "CERTIFICATE" ++ body ++ pemEnd "CERTIFICATE") ++ after) = .ok d ↔
        (∀ c ∈ before, isWhitespace c = true) ∧ (∀ c ∈ after, isWhitespace c = true) ∧
          (∀ c ∈ body, isWhitespace c = true ∨ Base64.IsSymbol c) ∧
          body.filter (fun c => !isWhitespace c) = Base64.encode d) ∧
    (∀ before s₁ between s₂ after d label₁ label₂ d₁ d₂,
      PemBlock label₁ d₁ s₁ → PemBlock label₂ d₂ s₂ →
      strictPem field "CERTIFICATE" (before ++ s₁ ++ between ++ s₂ ++ after) ≠ .ok d) ∧
    ∀ canonicalizedBody body, parseTlogEntryBody X canonicalizedBody = .ok body ↔
      ∃ value raw rawSignature text, parseStrict X canonicalizedBody = .ok value ∧
        fromValue rawTlogEntryBody value = .ok raw ∧
        DecodedFrom raw rawSignature text body := by
  refine ⟨fun s d => strictPem_iff, ?_, ?_, ?_⟩
  · intro before body after d
    rw [strictPem_iff, pemBlock_layout_iff]
    constructor
    · rintro ⟨hbefore, hafter, hbody⟩
      exact ⟨hbefore, hafter, fun c hc => symbol_or_blank hbody hc, hbody⟩
    · rintro ⟨hbefore, hafter, -, hbody⟩
      exact ⟨hbefore, hafter, hbody⟩
  · intro before s₁ between s₂ after d label₁ label₂ d₁ d₂ h₁ h₂
    rw [ne_eq, strictPem_iff]
    exact not_pemBlock_of_two (by decide) h₁ h₂
  · intro canonicalizedBody body
    simp only [parseTlogEntryBody, bind_eq_ok, TlogEntryBody.fromRaw_eq_ok]
    constructor
    · rintro ⟨value, hvalue, raw, hraw, rawSignature, text, hdecoded⟩
      exact ⟨value, raw, rawSignature, text, hvalue, hraw, hdecoded⟩
    · rintro ⟨value, raw, rawSignature, text, hvalue, hraw, hdecoded⟩
      exact ⟨value, hvalue, raw, hraw, rawSignature, text, hdecoded⟩

end AttestationVerify
