import AttestationVerify.Rekor.Entry
import AttestationVerify.Trust
import AttestationVerify.Wire.Spelling

namespace AttestationVerify

open Wire Wire.Json Wire.Serde

/-!
# Messages spelled by position

The raw mirrors are read by serde's derived `Deserialize`, which takes a struct from an array of its
fields in the order of their declaration as well as from an object.  None of the four parsers
refuses such an array, at any level of a document.

* `bundleSchema`, `statementSchema`, `trustedRootSchema`, `tlogEntryBodySchema` — where the messages
  of the documents are;
* `follows_rawBundle` and so on — the raw decoders go by them;
* `byNameOnly_iff` — so the messages of an accepted document are objects unless it spells by
  position a document that would be accepted by name.
-/

/-! ### Bundles -/

/-- The fields of a certificate, in the order of the struct. -/
def certificateSchema : Schema := .message [⟨"rawBytes", .leaf⟩]

/-- The field of a log id. -/
def logIdSchema : Schema := .message [⟨"keyId", .leaf⟩]

/-- The fields of a kind and version. -/
def kindVersionSchema : Schema := .message [⟨"kind", .leaf⟩, ⟨"version", .leaf⟩]

/-- The field of a promise. -/
def inclusionPromiseSchema : Schema := .message [⟨"signedEntryTimestamp", .leaf⟩]

/-- The field of a checkpoint. -/
def checkpointSchema : Schema := .message [⟨"envelope", .leaf⟩]

/-- The fields of a proof. -/
def inclusionProofSchema : Schema := .message
  [⟨"logIndex", .leaf⟩, ⟨"rootHash", .leaf⟩, ⟨"treeSize", .leaf⟩, ⟨"hashes", .leaf⟩,
   ⟨"checkpoint", checkpointSchema⟩]

/-- The fields of an entry, two of them nullable. -/
def tlogEntrySchema : Schema := .message
  [⟨"logIndex", .leaf⟩, ⟨"logId", logIdSchema⟩, ⟨"kindVersion", kindVersionSchema⟩,
   ⟨"integratedTime", .leaf⟩, ⟨"inclusionPromise", .nullable inclusionPromiseSchema⟩,
   ⟨"inclusionProof", .nullable inclusionProofSchema⟩, ⟨"canonicalizedBody", .leaf⟩]

/-- The field of a timestamp. -/
def rfc3161TimestampSchema : Schema := .message [⟨"signedTimestamp", .leaf⟩]

/-- The timestamps, a list. -/
def timestampVerificationDataSchema : Schema := .message
  [⟨"rfc3161Timestamps", .seq rfc3161TimestampSchema⟩]

/-- The fields of the verification material. -/
def verificationMaterialSchema : Schema := .message
  [⟨"certificate", certificateSchema⟩, ⟨"tlogEntries", .seq tlogEntrySchema⟩,
   ⟨"timestampVerificationData", timestampVerificationDataSchema⟩]

/-- The fields of a signature. -/
def dsseSignatureSchema : Schema := .message [⟨"sig", .leaf⟩, ⟨"keyid", .leaf⟩]

/-- The fields of an envelope. -/
def dsseEnvelopeSchema : Schema := .message
  [⟨"payload", .leaf⟩, ⟨"payloadType", .leaf⟩, ⟨"signatures", .seq dsseSignatureSchema⟩]

/-- The fields of a bundle. -/
def bundleSchema : Schema := .message
  [⟨"mediaType", .leaf⟩, ⟨"verificationMaterial", verificationMaterialSchema⟩,
   ⟨"dsseEnvelope", dsseEnvelopeSchema⟩]

/-- Certificates are read by their schema. -/
theorem follows_rawCertificate : Follows rawCertificate certificateSchema :=
  follows_struct (by decide) <| follows_required (follows_leaf _) fun _ => follows_pure _

/-- Log ids are read by their schema. -/
theorem follows_rawLogId : Follows rawLogId logIdSchema :=
  follows_struct (by decide) <| follows_required (follows_leaf _) fun _ => follows_pure _

/-- Kinds and versions are read by their schema. -/
theorem follows_rawKindVersion : Follows rawKindVersion kindVersionSchema :=
  follows_struct (by decide) <| follows_required (follows_leaf _) fun _ =>
    follows_required (follows_leaf _) fun _ => follows_pure _

/-- Promises are read by their schema. -/
theorem follows_rawInclusionPromise : Follows rawInclusionPromise inclusionPromiseSchema :=
  follows_struct (by decide) <| follows_required (follows_leaf _) fun _ => follows_pure _

/-- Checkpoints are read by their schema. -/
theorem follows_rawCheckpoint : Follows rawCheckpoint checkpointSchema :=
  follows_struct (by decide) <| follows_required (follows_leaf _) fun _ => follows_pure _

/-- Proofs are read by their schema. -/
theorem follows_rawInclusionProof : Follows rawInclusionProof inclusionProofSchema :=
  follows_struct (by decide) <| follows_required (follows_leaf _) fun _ =>
    follows_required (follows_leaf _) fun _ => follows_required (follows_leaf _) fun _ =>
    follows_defaulted (follows_leaf _) fun _ => follows_required follows_rawCheckpoint fun _ =>
    follows_pure _

/-- Entries are read by their schema. -/
theorem follows_rawTlogEntry : Follows rawTlogEntry tlogEntrySchema :=
  follows_struct (by decide) <| follows_required (follows_leaf _) fun _ =>
    follows_required follows_rawLogId fun _ => follows_required follows_rawKindVersion fun _ =>
    follows_required (follows_leaf _) fun _ =>
    follows_defaulted (follows_nullable follows_rawInclusionPromise) fun _ =>
    follows_defaulted (follows_nullable follows_rawInclusionProof) fun _ =>
    follows_required (follows_leaf _) fun _ => follows_pure _

/-- Timestamps are read by their schema. -/
theorem follows_rawRfc3161Timestamp : Follows rawRfc3161Timestamp rfc3161TimestampSchema :=
  follows_struct (by decide) <| follows_required (follows_leaf _) fun _ => follows_pure _

/-- Lists of timestamps are read by their schema. -/
theorem follows_rawTimestampVerificationData :
    Follows rawTimestampVerificationData timestampVerificationDataSchema :=
  follows_struct (by decide) <| follows_defaulted (follows_seq follows_rawRfc3161Timestamp) fun _ =>
    follows_pure _

/-- Verification material is read by its schema. -/
theorem follows_rawVerificationMaterial :
    Follows rawVerificationMaterial verificationMaterialSchema :=
  follows_struct (by decide) <| follows_required follows_rawCertificate fun _ =>
    follows_defaulted (follows_seq follows_rawTlogEntry) fun _ =>
    follows_defaulted follows_rawTimestampVerificationData fun _ => follows_pure _

/-- Signatures are read by their schema. -/
theorem follows_rawDsseSignature : Follows rawDsseSignature dsseSignatureSchema :=
  follows_struct (by decide) <| follows_required (follows_leaf _) fun _ =>
    follows_defaulted (follows_leaf _) fun _ => follows_pure _

/-- Envelopes are read by their schema. -/
theorem follows_rawDsseEnvelope : Follows rawDsseEnvelope dsseEnvelopeSchema :=
  follows_struct (by decide) <| follows_required (follows_leaf _) fun _ =>
    follows_required (follows_leaf _) fun _ =>
    follows_defaulted (follows_seq follows_rawDsseSignature) fun _ => follows_pure _

/-- Bundles are read by their schema. -/
theorem follows_rawBundle : Follows rawBundle bundleSchema :=
  follows_struct (by decide) <| follows_required (follows_leaf _) fun _ =>
    follows_required follows_rawVerificationMaterial fun _ =>
    follows_required follows_rawDsseEnvelope fun _ => follows_pure _

/-! ### Statements -/

/-- The fields of a subject; its digest is a map, not a struct. -/
def statementSubjectSchema : Schema := .message [⟨"name", .leaf⟩, ⟨"digest", .leaf⟩]

/-- The fields of a statement. -/
def statementSchema : Schema := .message
  [⟨"_type", .leaf⟩, ⟨"subject", .seq statementSubjectSchema⟩, ⟨"predicateType", .leaf⟩,
   ⟨"predicate", .leaf⟩]

/-- Subjects are read by their schema. -/
theorem follows_rawStatementSubject : Follows rawStatementSubject statementSubjectSchema :=
  follows_struct (by decide) <| follows_defaulted (follows_leaf _) fun _ =>
    follows_defaulted (follows_leaf _) fun _ => follows_pure _

/-- Statements are read by their schema. -/
theorem follows_rawStatement : Follows rawStatement statementSchema :=
  follows_struct (by decide) <| follows_required (follows_leaf _) fun _ =>
    follows_defaulted (follows_seq follows_rawStatementSubject) fun _ =>
    follows_required (follows_leaf _) fun _ => follows_defaulted (follows_leaf _) fun _ =>
    follows_pure _

/-! ### Trusted roots -/

/-- The fields of a validity period. -/
def validForSchema : Schema := .message [⟨"start", .leaf⟩, ⟨"end", .leaf⟩]

/-- The fields of a key. -/
def publicKeySchema : Schema := .message
  [⟨"rawBytes", .leaf⟩, ⟨"keyDetails", .leaf⟩, ⟨"validFor", validForSchema⟩]

/-- The fields of a log, of either kind. -/
def tlogSchema : Schema := .message
  [⟨"baseUrl", .leaf⟩, ⟨"hashAlgorithm", .leaf⟩, ⟨"publicKey", publicKeySchema⟩,
   ⟨"logId", logIdSchema⟩, ⟨"checkpointKeyId", .leaf⟩]

/-- The fields of an authority's subject. -/
def caSubjectSchema : Schema := .message [⟨"organization", .leaf⟩, ⟨"commonName", .leaf⟩]

/-- The field of a certificate in a chain. -/
def certEntrySchema : Schema := .message [⟨"rawBytes", .leaf⟩]

/-- The certificates of a chain. -/
def certChainSchema : Schema := .message [⟨"certificates", .seq certEntrySchema⟩]

/-- The fields of an authority. -/
def certificateAuthoritySchema : Schema := .message
  [⟨"subject", caSubjectSchema⟩, ⟨"uri", .leaf⟩, ⟨"certChain", certChainSchema⟩,
   ⟨"validFor", validForSchema⟩]

/-- The fields of a trusted root. -/
def trustedRootSchema : Schema := .message
  [⟨"mediaType", .leaf⟩, ⟨"tlogs", .seq tlogSchema⟩, ⟨"ctlogs", .seq tlogSchema⟩,
   ⟨"certificateAuthorities", .seq certificateAuthoritySchema⟩,
   ⟨"timestampAuthorities", .seq certificateAuthoritySchema⟩]

/-- Validity periods are read by their schema. -/
theorem follows_rawValidFor : Follows rawValidFor validForSchema :=
  follows_struct (by decide) <| follows_required (follows_leaf _) fun _ =>
    follows_defaulted (follows_leaf _) fun _ => follows_pure _

/-- Keys are read by their schema. -/
theorem follows_rawPublicKey : Follows rawPublicKey publicKeySchema :=
  follows_struct (by decide) <| follows_required (follows_leaf _) fun _ =>
    follows_required (follows_leaf _) fun _ => follows_required follows_rawValidFor fun _ =>
    follows_pure _

/-- Logs are read by their schema. -/
theorem follows_rawTlog : Follows rawTlog tlogSchema :=
  follows_struct (by decide) <| follows_required (follows_leaf _) fun _ =>
    follows_required (follows_leaf _) fun _ => follows_required follows_rawPublicKey fun _ =>
    follows_required follows_rawLogId fun _ => follows_defaulted (follows_leaf _) fun _ =>
    follows_pure _

/-- Subjects of authorities are read by their schema. -/
theorem follows_rawCaSubject : Follows rawCaSubject caSubjectSchema :=
  follows_struct (by decide) <| follows_required (follows_leaf _) fun _ =>
    follows_required (follows_leaf _) fun _ => follows_pure _

/-- Certificates of a chain are read by their schema. -/
theorem follows_rawCertEntry : Follows rawCertEntry certEntrySchema :=
  follows_struct (by decide) <| follows_required (follows_leaf _) fun _ => follows_pure _

/-- Chains are read by their schema. -/
theorem follows_rawCertChain : Follows rawCertChain certChainSchema :=
  follows_struct (by decide) <| follows_required (follows_seq follows_rawCertEntry) fun _ =>
    follows_pure _

/-- Authorities are read by their schema. -/
theorem follows_rawCertificateAuthority :
    Follows rawCertificateAuthority certificateAuthoritySchema :=
  follows_struct (by decide) <| follows_required follows_rawCaSubject fun _ =>
    follows_required (follows_leaf _) fun _ => follows_required follows_rawCertChain fun _ =>
    follows_required follows_rawValidFor fun _ => follows_pure _

/-- Trusted roots are read by their schema. -/
theorem follows_rawTrustedRoot : Follows rawTrustedRoot trustedRootSchema :=
  follows_struct (by decide) <| follows_required (follows_leaf _) fun _ =>
    follows_defaulted (follows_seq follows_rawTlog) fun _ =>
    follows_defaulted (follows_seq follows_rawTlog) fun _ =>
    follows_defaulted (follows_seq follows_rawCertificateAuthority) fun _ =>
    follows_defaulted (follows_seq follows_rawCertificateAuthority) fun _ => follows_pure _

/-! ### Log entries -/

/-- The fields of a digest. -/
def hashSchema : Schema := .message [⟨"algorithm", .leaf⟩, ⟨"value", .leaf⟩]

/-- The fields of a body's signature. -/
def dsseSpecSignatureSchema : Schema := .message [⟨"signature", .leaf⟩, ⟨"verifier", .leaf⟩]

/-- The fields of a `spec`. -/
def dsseSpecSchema : Schema := .message
  [⟨"envelopeHash", hashSchema⟩, ⟨"payloadHash", hashSchema⟩,
   ⟨"signatures", .seq dsseSpecSignatureSchema⟩]

/-- The fields of a body. -/
def tlogEntryBodySchema : Schema := .message
  [⟨"apiVersion", .leaf⟩, ⟨"kind", .leaf⟩, ⟨"spec", dsseSpecSchema⟩]

/-- Digests are read by their schema. -/
theorem follows_rawHash : Follows rawHash hashSchema :=
  follows_struct (by decide) <| follows_required (follows_leaf _) fun _ =>
    follows_required (follows_leaf _) fun _ => follows_pure _

/-- Signatures of a body are read by their schema. -/
theorem follows_rawDsseSpecSignature : Follows rawDsseSpecSignature dsseSpecSignatureSchema :=
  follows_struct (by decide) <| follows_required (follows_leaf _) fun _ =>
    follows_required (follows_leaf _) fun _ => follows_pure _

/-- A `spec` is read by its schema. -/
theorem follows_rawDsseSpec : Follows rawDsseSpec dsseSpecSchema :=
  follows_struct (by decide) <| follows_required follows_rawHash fun _ =>
    follows_required follows_rawHash fun _ =>
    follows_defaulted (follows_seq follows_rawDsseSpecSignature) fun _ => follows_pure _

/-- Bodies are read by their schema. -/
theorem follows_rawTlogEntryBody : Follows rawTlogEntryBody tlogEntryBodySchema :=
  follows_struct (by decide) <| follows_required (follows_leaf _) fun _ =>
    follows_required (follows_leaf _) fun _ => follows_required follows_rawDsseSpec fun _ =>
    follows_pure _

/-! ### What is accepted -/

section Accepted

variable {α : Type} {X : Externals} {bytes : Bytes} {accepted : Prop}

/-- Every message of the document, should it be accepted, is an object. -/
def ByNameOnly (X : Externals) (bytes : Bytes) (accepted : Prop) (s : Schema) : Prop :=
  accepted → ∀ v, parseStrict X bytes = .ok v → s.Named v

/-- The document has a message that is no object and spells a document with objects only, one that
    is read and converts. -/
def SpelledByPosition (X : Externals) (bytes : Bytes) (s : Schema) (d : Decoder α)
    (converts : α → Prop) : Prop :=
  ∃ v w raw, parseStrict X bytes = .ok v ∧ ¬ s.Named v ∧ s.Named w ∧ s.Spells w v ∧
    d w = some raw ∧ converts raw

/-- What holds of a parser that extracts the raw mirror of a strict value and converts it. -/
theorem byNameOnly_iff_of {d : Decoder α} {s : Schema} (hd : Follows d s) {converts : α → Prop}
    (haccepted : accepted ↔
      ∃ v, parseStrict X bytes = .ok v ∧ ∃ raw, d v = some raw ∧ converts raw) :
    ByNameOnly X bytes accepted s ↔ ¬ SpelledByPosition X bytes s d converts := by
  constructor
  · rintro hnamed ⟨v, w, raw, hv, hnot, hw, hspells, hraw, hconverts⟩
    have hread : d v = some raw := (hd.same w v hw hspells).trans hraw
    exact hnot (hnamed (haccepted.mpr ⟨v, hv, raw, hread, hconverts⟩) v hv)
  · intro hspelled haccept v hv
    obtain ⟨v', hv', hread⟩ := haccepted.mp haccept
    obtain rfl : v' = v := Except.ok.inj (hv'.symm.trans hv)
    refine (hd.named_iff.mpr (not_not.mp fun hneither => ?_)) hread
    obtain ⟨hnot, hsome⟩ := not_or.mp hneither
    obtain ⟨w, hw, hspells, raw, hraw, hconverts⟩ := not_not.mp hsome
    exact hspelled ⟨v', w, raw, hv, hnot, hw, hspells, hraw, hconverts⟩

/-- The three parsers with a size limit are a strict value, its raw mirror and a conversion. -/
theorem accepted_iff {d : Decoder α} {β : Type} {convert : α → Except Error β} :
    (∃ b, (do
      checkInputSize bytes
      let value ← parseStrict X bytes
      let raw ← fromValue d value
      convert raw) = .ok b) ↔
    ∃ v, parseStrict X bytes = .ok v ∧
      ∃ raw, d v = some raw ∧ bytes.length ≤ maxInputBytes ∧ ∃ b, convert raw = .ok b := by
  simp only [bind_eq_ok, checkInputSize_eq_ok, fromValue, okOr_eq_ok]
  constructor
  · rintro ⟨b, _, hsize, v, hv, raw, hraw, hb⟩
    exact ⟨v, hv, raw, hraw, hsize, b, hb⟩
  · rintro ⟨v, hv, raw, hraw, hsize, b, hb⟩
    exact ⟨b, (), hsize, v, hv, raw, hraw, hb⟩

end Accepted

/-- **By name, unless it is by position.**  Each of the four parsers accepts a document with a
    message that is no object exactly when it spells by position one that would be accepted. -/
theorem byNameOnly_iff (X : Externals) (bytes : Bytes) :
    (ByNameOnly X bytes (∃ bundle, Bundle.fromJson X bytes = .ok bundle) bundleSchema ↔
      ¬ SpelledByPosition X bytes bundleSchema rawBundle fun raw =>
        bytes.length ≤ maxInputBytes ∧ ∃ bundle, Bundle.fromRaw raw = .ok bundle) ∧
    (ByNameOnly X bytes (∃ statement, Statement.fromPayload X bytes = .ok statement)
        statementSchema ↔
      ¬ SpelledByPosition X bytes statementSchema rawStatement fun raw =>
        bytes.length ≤ maxInputBytes ∧ ∃ statement, Statement.fromRaw raw = .ok statement) ∧
    (ByNameOnly X bytes (∃ trustStore, TrustStore.fromJson X bytes = .ok trustStore)
        trustedRootSchema ↔
      ¬ SpelledByPosition X bytes trustedRootSchema rawTrustedRoot fun raw =>
        bytes.length ≤ maxInputBytes ∧ ∃ trustStore, TrustStore.fromRaw raw
          (Hex.encode (X.sha256 bytes).bytes) "external".toList = .ok trustStore) ∧
    (ByNameOnly X bytes (∃ body, parseTlogEntryBody X bytes = .ok body) tlogEntryBodySchema ↔
      ¬ SpelledByPosition X bytes tlogEntryBodySchema rawTlogEntryBody fun raw =>
        ∃ body, TlogEntryBody.fromRaw raw = .ok body) := by
  refine ⟨byNameOnly_iff_of follows_rawBundle accepted_iff,
    byNameOnly_iff_of follows_rawStatement accepted_iff,
    byNameOnly_iff_of follows_rawTrustedRoot accepted_iff,
    byNameOnly_iff_of follows_rawTlogEntryBody ?_⟩
  simp only [parseTlogEntryBody, bind_eq_ok, fromValue, okOr_eq_ok]
  constructor
  · rintro ⟨body, v, hv, raw, hraw, hbody⟩
    exact ⟨v, hv, raw, hraw, body, hbody⟩
  · rintro ⟨v, hv, raw, hraw, body, hbody⟩
    exact ⟨body, v, hv, raw, hraw, hbody⟩

/-! ### A statement without names -/

/-- The four fields of a statement but the last, which has a default. -/
def positionalSample : Value :=
  .array [.string statementType, .array [], .string "p".toList]

/-- A statement written as an array, without its predicate. -/
def positionalText : Bytes := utf8 "[\"https://in-toto.io/Statement/v1\",[],\"p\"]".toList

/-- A reader that knows that text. -/
def positionalExternals : Externals := .ofTexts [(positionalText, ⟨positionalSample.toTree, true⟩)]

/-- The text is small. -/
private theorem length_positionalText : positionalText.length ≤ maxInputBytes := by
  have hbound : 400 ≤ maxInputBytes := by decide
  exact (length_utf8_literal_le _ (by decide)).trans hbound

/-- The positional text is strict JSON. -/
private theorem parseStrict_positional :
    parseStrict positionalExternals positionalText = .ok positionalSample := by
  refine parseStrict_eq_ok.mpr ⟨readJson_ofTexts_head _ _ _, ?_, by decide +kernel⟩
  simp [positionalSample]

/-- The positional text is taken for a statement. -/
theorem fromPayload_positional : Statement.fromPayload positionalExternals positionalText =
    .ok ⟨[], "p".toList, .null⟩ := by
  have hsize : checkInputSize positionalText = .ok () :=
    checkInputSize_eq_ok.mpr length_positionalText
  rw [Statement.fromPayload, hsize, ok_bind, parseStrict_positional, ok_bind]
  rfl

/-- The payload is accepted, and it is an array. -/
theorem not_byNameOnly_positional :
    ¬ ByNameOnly positionalExternals positionalText
      (∃ statement, Statement.fromPayload positionalExternals positionalText = .ok statement)
      statementSchema := by
  intro h
  obtain ⟨m, hobject, -⟩ := h ⟨_, fromPayload_positional⟩ _ parseStrict_positional
  cases hobject

end AttestationVerify
