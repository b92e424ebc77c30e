import AttestationVerify.Bundle
import AttestationVerify.Wire.JsonText

namespace AttestationVerify

open Wire Wire.Json Wire.Serde

/-!
# Rekor entry bodies

`rekor.rs`, first part: the decoded `canonicalizedBody` and its binding to the bundle it came in.

* `parseTlogEntryBody` — strict JSON, the supported kind and version, strict field decoding;
* `checkEntryBinding` — the comparisons that tie a body to an envelope and a leaf certificate;
* `checkEntryBinding_binds` — one body binds one signed statement, up to a SHA-256 collision.
-/

/-- The only supported kind. -/
def tlogEntryKind : Str := "dsse".toList

/-- The only supported version of it. -/
def tlogEntryApiVersion : Str := "0.0.1".toList

/-- What is used of an entry's body. -/
structure TlogEntryBody where
  kind : Str
  apiVersion : Str
  envelopeHash : Octets 32
  payloadHash : Octets 32
  signature : Bytes
  verifierCertificateDer : Bytes
  deriving DecidableEq

/-! ### The raw mirrors -/

/-- A digest as the document spells it. -/
structure RawHash where
  algorithm : Str
  value : Str

/-- A signature and its verifier, both in base64. -/
structure RawDsseSpecSignature where
  signature : Str
  verifier : Str

/-- The body's `spec`. -/
structure RawDsseSpec where
  envelopeHash : RawHash
  payloadHash : RawHash
  signatures : List RawDsseSpecSignature

/-- The body as the document spells it. -/
structure RawTlogEntryBody where
  apiVersion : Str
  kind : Str
  spec : RawDsseSpec

/-- The derived `Deserialize` of a digest. -/
def rawHash : Decoder RawHash := struct do
  let algorithm ← required "algorithm" string
  let value ← required "value" string
  pure ⟨algorithm, value⟩

/-- The derived `Deserialize` of a signature. -/
def rawDsseSpecSignature : Decoder RawDsseSpecSignature := struct do
  let signature ← required "signature" string
  let verifier ← required "verifier" string
  pure ⟨signature, verifier⟩

/-- The derived `Deserialize` of a `spec`. -/
def rawDsseSpec : Decoder RawDsseSpec := struct do
  let envelopeHash ← required "envelopeHash" rawHash
  let payloadHash ← required "payloadHash" rawHash
  let signatures ← defaulted "signatures" (seq rawDsseSpecSignature) []
  pure ⟨envelopeHash, payloadHash, signatures⟩

/-- The derived `Deserialize` of a body. -/
def rawTlogEntryBody : Decoder RawTlogEntryBody := struct do
  let apiVersion ← required "apiVersion" string
  let kind ← required "kind" string
  let spec ← required "spec" rawDsseSpec
  pure ⟨apiVersion, kind, spec⟩

/-! ### Parsing -/

/-- The kind and version, one signature, two SHA-256 digests and a certificate. -/
def TlogEntryBody.fromRaw (raw : RawTlogEntryBody) : Except Error TlogEntryBody := do
  ensure (raw.kind = tlogEntryKind ∧ raw.apiVersion = tlogEntryApiVersion)
    (.unsupported (.tlogEntryKindVersion raw.kind raw.apiVersion))
  let rawSignature ← match raw.spec.signatures with
    | [rawSignature] => pure rawSignature
    | signatures => throw (.parse (.dsseSignatureCount signatures.length))
  let envelopeHash ← strictHex 32 "spec.envelopeHash.value" raw.spec.envelopeHash.value
  let payloadHash ← strictHex 32 "spec.payloadHash.value" raw.spec.payloadHash.value
  let signature ← strictBase64 "spec.signatures[].signature" rawSignature.signature
  let verifierPemBytes ← strictBase64 "spec.signatures[].verifier" rawSignature.verifier
  let verifierPemText ← okOr (fromUtf8 verifierPemBytes) (.parse (.base64
    "spec.signatures[].verifier" (.text "decoded PEM body is not valid UTF-8".toList)))
  let verifierCertificateDer ← strictPem "spec.signatures[].verifier" "CERTIFICATE" verifierPemText
  pure ⟨raw.kind, raw.apiVersion, envelopeHash, payloadHash, signature, verifierCertificateDer⟩

/-- `parse_tlog_entry_body`, over the body's bytes. -/
def parseTlogEntryBody (X : Externals) (canonicalizedBody : Bytes) :
    Except Error TlogEntryBody := do
  let value ← parseStrict X canonicalizedBody
  let raw ← fromValue rawTlogEntryBody value
  TlogEntryBody.fromRaw raw

/-! ### Binding -/

/-- A string as `serde_json` prints it. -/
def jsonString (s : Str) : Str := JsonText.quote s

/-- The `keyid` member, left out when absent or empty. -/
def keyidMember (keyid : Option Str) : Str :=
  match keyid.filter (· ≠ []) with
  | some keyid => "\"keyid\":".toList ++ jsonString keyid ++ [',']
  | none => []

/-- The text whose hash `compute_envelope_hash` returns. -/
def envelopeJson (envelope : DsseEnvelope) : Str :=
  "\x7b\"payload\":".toList ++ jsonString (Base64.encode envelope.payload) ++
    ",\"payloadType\":".toList ++ jsonString envelope.payloadType ++
    ",\"signatures\":[\x7b".toList ++ keyidMember envelope.signature.keyid ++
    "\"sig\":".toList ++ jsonString (Base64.encode envelope.signature.sig) ++ "\x7d]\x7d".toList

/-- The digest that Rekor records for the envelope. -/
def computeEnvelopeHash (X : Externals) (envelope : DsseEnvelope) : Octets 32 :=
  X.sha256 (utf8 (envelopeJson envelope))

/-- `check_entry_binding`: the entry is about this envelope and this certificate. -/
def checkEntryBinding (X : Externals) (tlogEntry : TlogEntry) (body : TlogEntryBody)
    (envelope : DsseEnvelope) (leafCertificateDer : Bytes) : Except Error Unit := do
  ensure (tlogEntry.kind = body.kind ∧ tlogEntry.version = body.apiVersion)
    (.contentBinding .tlogEntryKindVersionMismatch)
  ensure (body.signature = envelope.signature.sig) (.contentBinding .tlogEntrySignatureMismatch)
  ensure (body.verifierCertificateDer = leafCertificateDer)
    (.contentBinding .tlogEntryCertificateMismatch)
  ensure (body.payloadHash = X.sha256 envelope.payload)
    (.contentBinding .tlogEntryPayloadHashMismatch)
  ensure (body.envelopeHash = computeEnvelopeHash X envelope)
    (.contentBinding .tlogEntryEnvelopeHashMismatch)

/-- What a binding ties together. -/
structure EntryBound (X : Externals) (tlogEntry : TlogEntry) (body : TlogEntryBody)
    (envelope : DsseEnvelope) (leafCertificateDer : Bytes) : Prop where
  kind : tlogEntry.kind = body.kind
  version : tlogEntry.version = body.apiVersion
  signature : body.signature = envelope.signature.sig
  certificate : body.verifierCertificateDer = leafCertificateDer
  payloadHash : body.payloadHash = X.sha256 envelope.payload
  envelopeHash : body.envelopeHash = X.sha256 (utf8 (envelopeJson envelope))

/-- The binding holds exactly if every part agrees. -/
theorem checkEntryBinding_eq_ok {X : Externals} {tlogEntry : TlogEntry} {body : TlogEntryBody}
    {envelope : DsseEnvelope} {leafCertificateDer : Bytes} {u : Unit} :
    checkEntryBinding X tlogEntry body envelope leafCertificateDer = .ok u ↔
      EntryBound X tlogEntry body envelope leafCertificateDer := by
  simp only [checkEntryBinding, bind_eq_ok, ensure_eq_ok]
  constructor
  · intro h
    obtain ⟨_, ⟨hkind, hversion⟩, _, hsig, _, hcert, _, hpayload, henvelope⟩ := h
    exact ⟨hkind, hversion, hsig, hcert, hpayload, henvelope⟩
  · intro h
    obtain ⟨hkind, hversion, hsig, hcert, hpayload, henvelope⟩ := h
    exact ⟨(), ⟨hkind, hversion⟩, (), hsig, (), hcert, (), hpayload, henvelope⟩

/-! ### The envelope text is read in one way -/

/-- An absent and an empty key id are one. -/
def keyidText (keyid : Option Str) : Str := keyid.getD []

/-- An empty `keyid` is left out. -/
theorem keyidMember_eq (keyid : Option Str) :
    keyidMember keyid =
      if keyidText keyid = [] then []
      else "\"keyid\":".toList ++ jsonString (keyidText keyid) ++ [','] := by
  cases keyid with
  | none => rfl
  | some k =>
    by_cases hk : k = []
    · subst hk; rfl
    · simp [keyidMember, keyidText, Option.filter, hk]

/-- The optional member and the one after it start differently. -/
theorem keyidMember_append_inj {keyid keyid' : Option Str} {r r' : Str}
    (h : keyidMember keyid ++ ("\"sig\":".toList ++ r)
      = keyidMember keyid' ++ ("\"sig\":".toList ++ r')) :
    keyidText keyid = keyidText keyid' ∧ r = r' := by
  simp only [keyidMember_eq] at h
  split at h
  · rename_i hnil
    split at h
    · rename_i hnil'
      exact ⟨hnil.trans hnil'.symm, List.append_cancel_left h⟩
    · -- a member that is there starts with another character than `sig`
      simp at h
  · split at h
    · simp at h
    · simp only [List.append_assoc] at h
      obtain ⟨hkeyid, hrest⟩ := JsonText.quote_append_inj (List.append_cancel_left h)
      exact ⟨hkeyid, List.append_cancel_left (List.append_cancel_left hrest)⟩

/-- **The envelope serialisation is injective**, whatever the strings contain. -/
theorem envelopeJson_inj {e e' : DsseEnvelope} (h : envelopeJson e = envelopeJson e') :
    e.payload = e'.payload ∧ e.payloadType = e'.payloadType ∧
      keyidText e.signature.keyid = keyidText e'.signature.keyid ∧
      e.signature.sig = e'.signature.sig := by
  unfold envelopeJson at h
  repeat rw [List.append_assoc] at h
  have h := List.append_cancel_left h
  -- literal after literal, with the fixed text between them taken off
  obtain ⟨hpayload, h⟩ := JsonText.quote_append_inj h
  have h := List.append_cancel_left h
  obtain ⟨htype, h⟩ := JsonText.quote_append_inj h
  have h := List.append_cancel_left h
  obtain ⟨hkeyid, h⟩ := keyidMember_append_inj h
  obtain ⟨hsig, -⟩ := JsonText.quote_append_inj h
  exact ⟨Base64.encode_injective hpayload, htype, hkeyid, Base64.encode_injective hsig⟩

/-! ### One body, one statement -/

/-- Two bundles carry the same signed statement, an absent and an empty key id being one. -/
structure SameStatement (tlogEntry tlogEntry' : TlogEntry) (envelope envelope' : DsseEnvelope)
    (leafDer leafDer' : Bytes) : Prop where
  kind : tlogEntry.kind = tlogEntry'.kind
  version : tlogEntry.version = tlogEntry'.version
  signature : envelope.signature.sig = envelope'.signature.sig
  certificate : leafDer = leafDer'
  payload : envelope.payload = envelope'.payload
  payloadType : envelope.payloadType = envelope'.payloadType
  keyid : keyidText envelope.signature.keyid = keyidText envelope'.signature.keyid

/-- **One entry body binds one statement.**  Two triples bound to the same body agree, or their
    payloads or envelope texts collide under SHA-256. -/
theorem checkEntryBinding_binds {X : Externals} {body : TlogEntryBody}
    {tlogEntry tlogEntry' : TlogEntry} {envelope envelope' : DsseEnvelope}
    {leafDer leafDer' : Bytes}
    (h : checkEntryBinding X tlogEntry body envelope leafDer = .ok ())
    (h' : checkEntryBinding X tlogEntry' body envelope' leafDer' = .ok ()) :
    SameStatement tlogEntry tlogEntry' envelope envelope' leafDer leafDer' ∨
      Collision X.sha256 envelope.payload envelope'.payload ∨
      Collision X.sha256 (utf8 (envelopeJson envelope)) (utf8 (envelopeJson envelope')) := by
  have hbound := checkEntryBinding_eq_ok.mp h
  have hbound' := checkEntryBinding_eq_ok.mp h'
  by_cases hjson : utf8 (envelopeJson envelope) = utf8 (envelopeJson envelope')
  · obtain ⟨hpayload, htype, hkeyid, hsig⟩ := envelopeJson_inj (utf8_injective hjson)
    exact .inl
      { kind := hbound.kind.trans hbound'.kind.symm
        version := hbound.version.trans hbound'.version.symm
        signature := hsig
        certificate := hbound.certificate.symm.trans hbound'.certificate
        payload := hpayload
        payloadType := htype
        keyid := hkeyid }
  · -- different texts, and both hash to the body's envelope hash
    exact .inr (.inr ⟨hjson, hbound.envelopeHash.symm.trans hbound'.envelopeHash⟩)

/-! ### A bound body -/

/-- An envelope with or without a `keyid`. -/
private def boundEnvelope (keyid : Option Str) : DsseEnvelope :=
  ⟨[104, 105], ['t'], ⟨[1], keyid⟩⟩

/-- SHA-256 of the sample's payload. -/
def Sample.payloadHash : Octets 32 :=
  ⟨[143, 67, 67, 70, 100, 143, 107, 150, 223, 137, 221, 169, 1, 197, 23, 107, 16, 166, 216, 57,
  97, 221, 60, 26, 200, 139, 89, 178, 220, 50, 122, 164], rfl⟩

/-- SHA-256 of its envelope text. -/
def Sample.envelopeHash : Octets 32 :=
  ⟨[252, 183, 33, 188, 222, 30, 169, 148, 125, 234, 225, 2, 216, 197, 107, 109, 0, 133, 68, 91,
  211, 210, 56, 74, 242, 54, 222, 127, 24, 111, 58, 31], rfl⟩

/-- The real digests of its payload and of its JSON. -/
private def boundDigests : List (Bytes × Octets 32) :=
  [([104, 105], Sample.payloadHash),
    (utf8 (envelopeJson (boundEnvelope none)), Sample.envelopeHash)]

/-- Libraries that compute these digests. -/
private def boundX : Externals := (Externals.ofTexts []).withDigests boundDigests

/-- An entry of the supported kind. -/
private def boundEntry : TlogEntry := ⟨0, [], tlogEntryKind, tlogEntryApiVersion, 0, none, none, []⟩

/-- The body that Rekor stores for the envelope. -/
private def boundBody : TlogEntryBody :=
  ⟨tlogEntryKind, tlogEntryApiVersion, boundX.sha256 (utf8 (envelopeJson (boundEnvelope none))),
    boundX.sha256 [104, 105], [1], [48]⟩

/-- An absent and an empty key id, bound to one body. -/
theorem checkEntryBinding_binds_keyid :
    SameStatement boundEntry boundEntry (boundEnvelope none) (boundEnvelope (some [])) [48] [48] ∨
      Collision boundX.sha256 [104, 105] [104, 105] ∨
      Collision boundX.sha256 (utf8 (envelopeJson (boundEnvelope none)))
        (utf8 (envelopeJson (boundEnvelope (some [])))) := by
  have hbound (keyid : Option Str) (hkeyid : keyidMember keyid = []) :
      checkEntryBinding boundX boundEntry boundBody (boundEnvelope keyid) [48] = .ok () := by
    refine checkEntryBinding_eq_ok.mpr ⟨rfl, rfl, rfl, rfl, rfl, ?_⟩
    have hjson : envelopeJson (boundEnvelope keyid) = envelopeJson (boundEnvelope none) := by
      unfold envelopeJson
      rw [show keyidMember (boundEnvelope keyid).signature.keyid = [] from hkeyid]
      rfl
    rw [hjson]
    rfl
  exact checkEntryBinding_binds (hbound none rfl) (hbound (some []) rfl)

end AttestationVerify
