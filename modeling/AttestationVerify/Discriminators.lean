import AttestationVerify.Rekor.Entry
import AttestationVerify.Trust

namespace AttestationVerify

open Wire Wire.Json Wire.Serde

/-!
# Version and type discriminators

The four parsers that dispatch on a discriminator read the whole supported shape first.  A document
of another version therefore gets the typed `Unsupported` answer exactly when its other members
happen to have the shape of the supported one.

* the `…Fields` lists — the shape each derived `Deserialize` accepts;
* `unsupported_iff_shape` — the four parsers, each against its own shape.
-/

/-! ### The shapes read -/

/-- The fields of a digest. -/
def hashFields : List FieldShape := [⟨"algorithm", false, IsString⟩, ⟨"value", false, IsString⟩]

/-- The fields of a signature in an entry's body. -/
def dsseSpecSignatureFields : List FieldShape :=
  [⟨"signature", false, IsString⟩, ⟨"verifier", false, IsString⟩]

/-- The fields of the `spec` of a `dsse` body. -/
def dsseSpecFields : List FieldShape :=
  [⟨"envelopeHash", false, IsStruct hashFields⟩, ⟨"payloadHash", false, IsStruct hashFields⟩,
    ⟨"signatures", true, IsArrayOf (IsStruct dsseSpecSignatureFields)⟩]

/-- The fields of an entry's body, that of a `dsse` entry whatever its kind. -/
def tlogEntryBodyFields : List FieldShape :=
  [⟨"apiVersion", false, IsString⟩, ⟨"kind", false, IsString⟩,
    ⟨"spec", false, IsStruct dsseSpecFields⟩]

/-- A message of one string. -/
def soleFields (name : String) : List FieldShape := [⟨name, false, IsString⟩]

/-- The fields of a kind and version. -/
def kindVersionFields : List FieldShape :=
  [⟨"kind", false, IsString⟩, ⟨"version", false, IsString⟩]

/-- The fields of an inclusion proof. -/
def inclusionProofFields : List FieldShape :=
  [⟨"logIndex", false, IsString⟩, ⟨"rootHash", false, IsString⟩, ⟨"treeSize", false, IsString⟩,
    ⟨"hashes", true, IsArrayOf IsString⟩,
    ⟨"checkpoint", false, IsStruct (soleFields "envelope")⟩]

/-- The fields of a log entry. -/
def tlogEntryFields : List FieldShape :=
  [⟨"logIndex", false, IsString⟩, ⟨"logId", false, IsStruct (soleFields "keyId")⟩,
    ⟨"kindVersion", false, IsStruct kindVersionFields⟩, ⟨"integratedTime", false, IsString⟩,
    ⟨"inclusionPromise", true, IsNullable (IsStruct (soleFields "signedEntryTimestamp"))⟩,
    ⟨"inclusionProof", true, IsNullable (IsStruct inclusionProofFields)⟩,
    ⟨"canonicalizedBody", false, IsString⟩]

/-- The fields of the timestamps. -/
def timestampVerificationDataFields : List FieldShape :=
  [⟨"rfc3161Timestamps", true, IsArrayOf (IsStruct (soleFields "signedTimestamp"))⟩]

/-- The fields of the verification material. -/
def verificationMaterialFields : List FieldShape :=
  [⟨"certificate", false, IsStruct (soleFields "rawBytes")⟩,
    ⟨"tlogEntries", true, IsArrayOf (IsStruct tlogEntryFields)⟩,
    ⟨"timestampVerificationData", true, IsStruct timestampVerificationDataFields⟩]

/-- The fields of an envelope's signature. -/
def dsseSignatureFields : List FieldShape :=
  [⟨"sig", false, IsString⟩, ⟨"keyid", true, IsNullable IsString⟩]

/-- The fields of an envelope. -/
def dsseEnvelopeFields : List FieldShape :=
  [⟨"payload", false, IsString⟩, ⟨"payloadType", false, IsString⟩,
    ⟨"signatures", true, IsArrayOf (IsStruct dsseSignatureFields)⟩]

/-- The fields of a bundle. -/
def bundleFields : List FieldShape :=
  [⟨"mediaType", false, IsString⟩,
    ⟨"verificationMaterial", false, IsStruct verificationMaterialFields⟩,
    ⟨"dsseEnvelope", false, IsStruct dsseEnvelopeFields⟩]

/-- The fields of a validity period. -/
def validForFields : List FieldShape :=
  [⟨"start", false, IsString⟩, ⟨"end", true, IsNullable IsString⟩]

/-- The fields of a log's key. -/
def publicKeyFields : List FieldShape :=
  [⟨"rawBytes", false, IsString⟩, ⟨"keyDetails", false, IsString⟩,
    ⟨"validFor", false, IsStruct validForFields⟩]

/-- The fields of a log. -/
def tlogFields : List FieldShape :=
  [⟨"baseUrl", false, IsString⟩, ⟨"hashAlgorithm", false, IsString⟩,
    ⟨"publicKey", false, IsStruct publicKeyFields⟩,
    ⟨"logId", false, IsStruct (soleFields "keyId")⟩,
    ⟨"checkpointKeyId", true, IsNullable IsString⟩]

/-- The fields of an authority's subject. -/
def caSubjectFields : List FieldShape :=
  [⟨"organization", false, IsString⟩, ⟨"commonName", false, IsString⟩]

/-- The fields of a chain. -/
def certChainFields : List FieldShape :=
  [⟨"certificates", false, IsArrayOf (IsStruct (soleFields "rawBytes"))⟩]

/-- The fields of an authority. -/
def certificateAuthorityFields : List FieldShape :=
  [⟨"subject", false, IsStruct caSubjectFields⟩, ⟨"uri", false, IsString⟩,
    ⟨"certChain", false, IsStruct certChainFields⟩, ⟨"validFor", false, IsStruct validForFields⟩]

/-- The fields of a trusted root. -/
def trustedRootFields : List FieldShape :=
  [⟨"mediaType", false, IsString⟩, ⟨"tlogs", true, IsArrayOf (IsStruct tlogFields)⟩,
    ⟨"ctlogs", true, IsArrayOf (IsStruct tlogFields)⟩,
    ⟨"certificateAuthorities", true, IsArrayOf (IsStruct certificateAuthorityFields)⟩,
    ⟨"timestampAuthorities", true, IsArrayOf (IsStruct certificateAuthorityFields)⟩]

/-- The fields of a statement's subject. -/
def statementSubjectFields : List FieldShape :=
  [⟨"name", true, IsNullable IsString⟩, ⟨"digest", true, IsMapOf IsString⟩]

/-- The fields of a statement; its predicate may be anything. -/
def statementFields : List FieldShape :=
  [⟨"_type", false, IsString⟩,
    ⟨"subject", true, IsArrayOf (IsStruct statementSubjectFields)⟩,
    ⟨"predicateType", false, IsString⟩, ⟨"predicate", true, fun _ => True⟩]

/-! ### The decoders accept them -/

/-- Digests are taken by shape. -/
theorem accepts_rawHash : Accepts rawHash (IsStruct hashFields) :=
  accepts_struct <| reads_required accepts_string fun _ =>
    reads_required accepts_string fun _ => reads_pure _

/-- Signatures of a body are taken by shape. -/
theorem accepts_rawDsseSpecSignature :
    Accepts rawDsseSpecSignature (IsStruct dsseSpecSignatureFields) :=
  accepts_struct <| reads_required accepts_string fun _ =>
    reads_required accepts_string fun _ => reads_pure _

/-- A `spec` is taken by shape. -/
theorem accepts_rawDsseSpec : Accepts rawDsseSpec (IsStruct dsseSpecFields) :=
  accepts_struct <| reads_required accepts_rawHash fun _ =>
    reads_required accepts_rawHash fun _ =>
    reads_defaulted (accepts_seq accepts_rawDsseSpecSignature) fun _ => reads_pure _

/-- Bodies are taken by shape, and that before the kind is looked at. -/
theorem accepts_rawTlogEntryBody : Accepts rawTlogEntryBody (IsStruct tlogEntryBodyFields) :=
  accepts_struct <| reads_required accepts_string fun _ =>
    reads_required accepts_string fun _ =>
    reads_required accepts_rawDsseSpec fun _ => reads_pure _

/-- A message of one string. -/
theorem reads_sole {β : Type} (name : String) (f : Str → β) :
    Reads (required name string >>= fun s => pure (f s)) (soleFields name) :=
  reads_required accepts_string fun _ => reads_pure _

/-- Inclusion proofs are taken by shape. -/
theorem accepts_rawInclusionProof :
    Accepts rawInclusionProof (IsStruct inclusionProofFields) :=
  accepts_struct <| reads_required accepts_string fun _ =>
    reads_required accepts_string fun _ =>
    reads_required accepts_string fun _ =>
    reads_defaulted (accepts_seq accepts_string) fun _ =>
    reads_required (accepts_struct (reads_sole "envelope" RawCheckpoint.mk)) fun _ => reads_pure _

/-- Kinds and versions are taken by shape. -/
theorem accepts_rawKindVersion : Accepts rawKindVersion (IsStruct kindVersionFields) :=
  accepts_struct <| reads_required accepts_string fun _ =>
    reads_required accepts_string fun _ => reads_pure _

/-- Log entries are taken by shape. -/
theorem accepts_rawTlogEntry : Accepts rawTlogEntry (IsStruct tlogEntryFields) :=
  accepts_struct <| reads_required accepts_string fun _ =>
    reads_required (accepts_struct (reads_sole "keyId" RawLogId.mk)) fun _ =>
    reads_required accepts_rawKindVersion fun _ =>
    reads_required accepts_string fun _ =>
    reads_defaulted (accepts_nullable (accepts_struct
      (reads_sole "signedEntryTimestamp" RawInclusionPromise.mk))) fun _ =>
    reads_defaulted (accepts_nullable accepts_rawInclusionProof) fun _ =>
    reads_required accepts_string fun _ => reads_pure _

/-- Timestamps are taken by shape. -/
theorem accepts_rawTimestampVerificationData :
    Accepts rawTimestampVerificationData (IsStruct timestampVerificationDataFields) :=
  accepts_struct <| reads_defaulted (accepts_seq (accepts_struct
    (reads_sole "signedTimestamp" RawRfc3161Timestamp.mk))) fun _ => reads_pure _

/-- Verification material is taken by shape. -/
theorem accepts_rawVerificationMaterial :
    Accepts rawVerificationMaterial (IsStruct verificationMaterialFields) :=
  accepts_struct <|
    reads_required (accepts_struct (reads_sole "rawBytes" RawCertificate.mk)) fun _ =>
    reads_defaulted (accepts_seq accepts_rawTlogEntry) fun _ =>
    reads_defaulted accepts_rawTimestampVerificationData fun _ => reads_pure _

/-- Signatures of an envelope are taken by shape. -/
theorem accepts_rawDsseSignature : Accepts rawDsseSignature (IsStruct dsseSignatureFields) :=
  accepts_struct <| reads_required accepts_string fun _ =>
    reads_defaulted (accepts_nullable accepts_string) fun _ => reads_pure _

/-- Envelopes are taken by shape. -/
theorem accepts_rawDsseEnvelope : Accepts rawDsseEnvelope (IsStruct dsseEnvelopeFields) :=
  accepts_struct <| reads_required accepts_string fun _ =>
    reads_required accepts_string fun _ =>
    reads_defaulted (accepts_seq accepts_rawDsseSignature) fun _ => reads_pure _

/-- Bundles are taken by shape. -/
theorem accepts_rawBundle : Accepts rawBundle (IsStruct bundleFields) :=
  accepts_struct <| reads_required accepts_string fun _ =>
    reads_required accepts_rawVerificationMaterial fun _ =>
    reads_required accepts_rawDsseEnvelope fun _ => reads_pure _

/-- Validity periods are taken by shape. -/
theorem accepts_rawValidFor : Accepts rawValidFor (IsStruct validForFields) :=
  accepts_struct <| reads_required accepts_string fun _ =>
    reads_defaulted (accepts_nullable accepts_string) fun _ => reads_pure _

/-- Keys are taken by shape. -/
theorem accepts_rawPublicKey : Accepts rawPublicKey (IsStruct publicKeyFields) :=
  accepts_struct <| reads_required accepts_string fun _ =>
    reads_required accepts_string fun _ =>
    reads_required accepts_rawValidFor fun _ => reads_pure _

/-- Logs are taken by shape. -/
theorem accepts_rawTlog : Accepts rawTlog (IsStruct tlogFields) :=
  accepts_struct <| reads_required accepts_string fun _ =>
    reads_required accepts_string fun _ =>
    reads_required accepts_rawPublicKey fun _ =>
    reads_required (accepts_struct (reads_sole "keyId" RawLogId.mk)) fun _ =>
    reads_defaulted (accepts_nullable accepts_string) fun _ => reads_pure _

/-- Subjects of authorities are taken by shape. -/
theorem accepts_rawCaSubject : Accepts rawCaSubject (IsStruct caSubjectFields) :=
  accepts_struct <| reads_required accepts_string fun _ =>
    reads_required accepts_string fun _ => reads_pure _

/-- Chains are taken by shape. -/
theorem accepts_rawCertChain : Accepts rawCertChain (IsStruct certChainFields) :=
  accepts_struct <| reads_required
    (accepts_seq (accepts_struct (reads_sole "rawBytes" RawCertEntry.mk))) fun _ => reads_pure _

/-- Authorities are taken by shape. -/
theorem accepts_rawCertificateAuthority :
    Accepts rawCertificateAuthority (IsStruct certificateAuthorityFields) :=
  accepts_struct <| reads_required accepts_rawCaSubject fun _ =>
    reads_required accepts_string fun _ =>
    reads_required accepts_rawCertChain fun _ =>
    reads_required accepts_rawValidFor fun _ => reads_pure _

/-- Trusted roots are taken by shape. -/
theorem accepts_rawTrustedRoot : Accepts rawTrustedRoot (IsStruct trustedRootFields) :=
  accepts_struct <| reads_required accepts_string fun _ =>
    reads_defaulted (accepts_seq accepts_rawTlog) fun _ =>
    reads_defaulted (accepts_seq accepts_rawTlog) fun _ =>
    reads_defaulted (accepts_seq accepts_rawCertificateAuthority) fun _ =>
    reads_defaulted (accepts_seq accepts_rawCertificateAuthority) fun _ => reads_pure _

/-- Subjects are taken by shape. -/
theorem accepts_rawStatementSubject :
    Accepts rawStatementSubject (IsStruct statementSubjectFields) :=
  accepts_struct <| reads_defaulted (accepts_nullable accepts_string) fun _ =>
    reads_defaulted (accepts_map accepts_string) fun _ => reads_pure _

/-- Statements are taken by shape. -/
theorem accepts_rawStatement : Accepts rawStatement (IsStruct statementFields) :=
  accepts_struct <| reads_required accepts_string fun _ =>
    reads_defaulted (accepts_seq accepts_rawStatementSubject) fun _ =>
    reads_required accepts_string fun _ =>
    reads_defaulted accepts_value fun _ => reads_pure _

/-! ### What the discriminator decides -/

/-- A strict JSON object within the limits. -/
structure StrictObject (X : Externals) (bytes : Bytes) (members : Members) : Prop where
  size : bytes.length ≤ maxInputBytes
  read : X.readJson bytes = ⟨(Value.object members).toTree, true⟩
  strict : (Value.object members).Strict
  nodes : (Value.object members).toTree.nodes ≤ maxJsonNodes

/-- The text is parsed to the object. -/
theorem StrictObject.parseStrict {X : Externals} {bytes : Bytes} {members : Members}
    (h : StrictObject X bytes members) :
    AttestationVerify.parseStrict X bytes = .ok (.object members) :=
  parseStrict_eq_ok.mpr ⟨h.read, h.strict, h.nodes⟩

/-- A typed extraction whose conversion refuses whatever it extracts answers with that refusal
    exactly on the documents of its shape. -/
theorem unsupported_iff {α β : Type} {d : Decoder α} {convert : α → Except Error β}
    {fs : List FieldShape} {members : Members} {e : UnsupportedError}
    (hd : Accepts d (IsStruct fs))
    (hconvert : ∀ raw, d (.object members) = some raw → convert raw = .error (.unsupported e)) :
    (fromValue d (.object members) >>= convert) = .error (.unsupported e) ↔
      MembersMatch fs members := by
  have hshape : (d (.object members)).isSome ↔ MembersMatch fs members := hd _
  rw [← hshape, Option.isSome_iff_exists, bind_eq_error]
  constructor
  · -- the extraction itself fails with an input error, never with this one
    rintro (h | ⟨raw, h, -⟩)
    · simp at h
    · exact ⟨raw, fromValue_eq_ok.mp h⟩
  · intro h
    obtain ⟨raw, hraw⟩ := h
    exact .inr ⟨raw, fromValue_eq_ok.mpr hraw, hconvert raw hraw⟩

section Members

variable {members : Members}

/-- The media type that is read is the member of that name. -/
theorem rawBundle_mediaType {raw : RawBundle} {t : Str}
    (hmember : member members "mediaType" = some (.string t))
    (h : rawBundle (.object members) = some raw) : raw.mediaType = t := by
  -- the member is read first; nothing read after it changes it
  obtain ⟨x, hx, rfl⟩ := Option.map_eq_some_iff.mp h
  obtain ⟨_, ⟨rfl⟩, hx⟩ := required_eq_some hmember hx
  exact of_returns (p := fun raw : RawBundle => raw.mediaType = t) hx
    (returns_bind fun _ => returns_bind fun _ => returns_pure rfl)

/-- A trusted root's media type is the one that is read. -/
theorem rawTrustedRoot_mediaType {raw : RawTrustedRoot} {t : Str}
    (hmember : member members "mediaType" = some (.string t))
    (h : rawTrustedRoot (.object members) = some raw) : raw.mediaType = t := by
  obtain ⟨x, hx, rfl⟩ := Option.map_eq_some_iff.mp h
  obtain ⟨_, ⟨rfl⟩, hx⟩ := required_eq_some hmember hx
  exact of_returns (p := fun raw : RawTrustedRoot => raw.mediaType = t) hx
    (returns_bind fun _ => returns_bind fun _ => returns_bind fun _ => returns_bind fun _ =>
      returns_pure rfl)

/-- A statement's type is the member `_type`. -/
theorem rawStatement_type {raw : RawStatement} {t : Str}
    (hmember : member members "_type" = some (.string t))
    (h : rawStatement (.object members) = some raw) : raw.type_ = t := by
  obtain ⟨x, hx, rfl⟩ := Option.map_eq_some_iff.mp h
  obtain ⟨_, ⟨rfl⟩, hx⟩ := required_eq_some hmember hx
  exact of_returns (p := fun raw : RawStatement => raw.type_ = t) hx
    (returns_bind fun _ => returns_bind fun _ => returns_bind fun _ => returns_pure rfl)

/-- A body's kind and version are the members `kind` and `apiVersion`. -/
theorem rawTlogEntryBody_kindVersion {raw : RawTlogEntryBody} {kind version : Str}
    (hkind : member members "kind" = some (.string kind))
    (hversion : member members "apiVersion" = some (.string version))
    (h : rawTlogEntryBody (.object members) = some raw) :
    raw.kind = kind ∧ raw.apiVersion = version := by
  obtain ⟨x, hx, rfl⟩ := Option.map_eq_some_iff.mp h
  -- `apiVersion` is declared, and so read, before `kind`
  obtain ⟨_, ⟨rfl⟩, hx⟩ := required_eq_some hversion hx
  obtain ⟨_, ⟨rfl⟩, hx⟩ := required_eq_some hkind hx
  exact of_returns (p := fun raw : RawTlogEntryBody => raw.kind = kind ∧ raw.apiVersion = version)
    hx (returns_bind fun _ => returns_pure ⟨rfl, rfl⟩)

end Members

section Documents

variable {X : Externals} {bytes : Bytes} {members : Members}

/-- A bundle of another media type is unsupported when it has the shape of one that is not. -/
theorem bundle_unsupported_iff {t : Str} (h : StrictObject X bytes members)
    (hmember : member members "mediaType" = some (.string t)) (hne : t ≠ bundleMediaType) :
    Bundle.fromJson X bytes = .error (.unsupported (.mediaType t)) ↔
      MembersMatch bundleFields members := by
  rw [Bundle.fromJson, (checkInputSize_eq_ok (u := ())).mpr h.size, ok_bind, h.parseStrict, ok_bind]
  refine unsupported_iff accepts_rawBundle fun raw hraw => ?_
  have hmedia := rawBundle_mediaType hmember hraw
  rw [Bundle.fromRaw, ensure_not (hmedia ▸ hne), error_bind, hmedia]

/-- A trusted root of another media type is unsupported when it has the shape of one. -/
theorem trustStore_unsupported_iff {t : Str} (h : StrictObject X bytes members)
    (hmember : member members "mediaType" = some (.string t)) (hne : t ≠ trustedRootMediaType) :
    TrustStore.fromJson X bytes = .error (.unsupported (.mediaType t)) ↔
      MembersMatch trustedRootFields members := by
  rw [TrustStore.fromJson, (checkInputSize_eq_ok (u := ())).mpr h.size, ok_bind, h.parseStrict,
    ok_bind]
  refine unsupported_iff accepts_rawTrustedRoot fun raw hraw => ?_
  have hmedia := rawTrustedRoot_mediaType hmember hraw
  dsimp only
  rw [TrustStore.fromRaw, ensure_not (hmedia ▸ hne), error_bind, hmedia]

/-- A statement of another type is unsupported when it has the shape of one. -/
theorem statement_unsupported_iff {t : Str} (h : StrictObject X bytes members)
    (hmember : member members "_type" = some (.string t)) (hne : t ≠ statementType) :
    Statement.fromPayload X bytes = .error (.unsupported (.statementType t)) ↔
      MembersMatch statementFields members := by
  rw [Statement.fromPayload, (checkInputSize_eq_ok (u := ())).mpr h.size, ok_bind, h.parseStrict,
    ok_bind]
  refine unsupported_iff accepts_rawStatement fun raw hraw => ?_
  have htype := rawStatement_type hmember hraw
  rw [Statement.fromRaw, ensure_not (htype ▸ hne), error_bind, htype]

/-- A body of another kind is unsupported when it has the shape of a `dsse` body. -/
theorem tlogEntryBody_unsupported_iff {kind version : Str} (h : StrictObject X bytes members)
    (hkind : member members "kind" = some (.string kind))
    (hversion : member members "apiVersion" = some (.string version))
    (hne : ¬ (kind = tlogEntryKind ∧ version = tlogEntryApiVersion)) :
    parseTlogEntryBody X bytes = .error (.unsupported (.tlogEntryKindVersion kind version)) ↔
      MembersMatch tlogEntryBodyFields members := by
  rw [parseTlogEntryBody, h.parseStrict, ok_bind]
  refine unsupported_iff accepts_rawTlogEntryBody fun raw hraw => ?_
  obtain ⟨hk, hv⟩ := rawTlogEntryBody_kindVersion hkind hversion hraw
  rw [TlogEntryBody.fromRaw, ensure_not (hk ▸ hv ▸ hne), error_bind, hk, hv]

/-- **When a discriminator wins over shape.**  On a strict JSON object whose discriminator names
    another version, each parser answers with the typed error exactly when the object's members
    have the shape of the version it supports. -/
theorem unsupported_iff_shape (h : StrictObject X bytes members) :
    (∀ kind version, member members "kind" = some (.string kind) →
      member members "apiVersion" = some (.string version) →
      ¬ (kind = tlogEntryKind ∧ version = tlogEntryApiVersion) →
      (parseTlogEntryBody X bytes = .error (.unsupported (.tlogEntryKindVersion kind version)) ↔
        MembersMatch tlogEntryBodyFields members)) ∧
    (∀ t, member members "mediaType" = some (.string t) → t ≠ bundleMediaType →
      (Bundle.fromJson X bytes = .error (.unsupported (.mediaType t)) ↔
        MembersMatch bundleFields members)) ∧
    (∀ t, member members "mediaType" = some (.string t) → t ≠ trustedRootMediaType →
      (TrustStore.fromJson X bytes = .error (.unsupported (.mediaType t)) ↔
        MembersMatch trustedRootFields members)) ∧
    ∀ t, member members "_type" = some (.string t) → t ≠ statementType →
      (Statement.fromPayload X bytes = .error (.unsupported (.statementType t)) ↔
        MembersMatch statementFields members) :=
  ⟨fun _ _ hkind hversion hne => tlogEntryBody_unsupported_iff h hkind hversion hne,
    fun _ hmember hne => bundle_unsupported_iff h hmember hne,
    fun _ hmember hne => trustStore_unsupported_iff h hmember hne,
    fun _ hmember hne => statement_unsupported_iff h hmember hne⟩

end Documents

/-! ### An entry of another kind -/

/-- The body of a `hashedrekord` entry. -/
private def hashedrekordMembers : Members :=
  [("apiVersion".toList, .string tlogEntryApiVersion),
   ("kind".toList, .string "hashedrekord".toList),
   ("spec".toList, .object
     [("data".toList, .object
        [("hash".toList, .object
          [("algorithm".toList, .string "sha256".toList), ("value".toList, .string "00".toList)])]),
      ("signature".toList, .object
        [("content".toList, .string "AA==".toList),
         ("publicKey".toList, .object [("content".toList, .string "AA==".toList)])])])]

/-- The body of a `hashedrekord` entry. -/
private def hashedrekordText : Bytes :=
  utf8 ("\x7b\"apiVersion\":\"0.0.1\",\"kind\":\"hashedrekord\",\"spec\":\x7b".toList ++
    "\"data\":\x7b\"hash\":\x7b\"algorithm\":\"sha256\",\"value\":\"00\"\x7d\x7d,".toList ++
    "\"signature\":\x7b\"content\":\"AA==\",".toList ++
    "\"publicKey\":\x7b\"content\":\"AA==\"\x7d\x7d\x7d\x7d".toList)

/-- A reader that knows that text. -/
private def hashedrekordX : Externals :=
  .ofTexts [(hashedrekordText, ⟨(Value.object hashedrekordMembers).toTree, true⟩)]

set_option maxRecDepth 4000 in
/-- The text is one object that repeats no name. -/
private theorem strictObject_hashedrekord :
    StrictObject hashedrekordX hashedrekordText hashedrekordMembers where
  size := by
    have hbound : 1600 ≤ maxInputBytes := by decide
    refine le_trans ?_ hbound
    rw [hashedrekordText]
    iterate 3 refine length_utf8_append_le ?_ (length_utf8_literal_le (n := 400) _ (by decide))
    exact length_utf8_literal_le _ (by decide)
  read := readJson_ofTexts_head _ _ _
  strict := by simp [hashedrekordMembers]
  nodes := by decide +kernel

/-- The body's kind is another one, its version the same. -/
private theorem member_hashedrekord :
    member hashedrekordMembers "kind" = some (.string "hashedrekord".toList) ∧
      member hashedrekordMembers "apiVersion" = some (.string tlogEntryApiVersion) :=
  ⟨by rfl, by rfl⟩

/-- The theorem on that body, for its own kind and version. -/
theorem unsupported_iff_shape_hashedrekord :
    parseTlogEntryBody hashedrekordX hashedrekordText =
        .error (.unsupported (.tlogEntryKindVersion "hashedrekord".toList tlogEntryApiVersion)) ↔
      MembersMatch tlogEntryBodyFields hashedrekordMembers :=
  (unsupported_iff_shape strictObject_hashedrekord).1 _ _ member_hashedrekord.1
    member_hashedrekord.2 (by decide +kernel)

/-- **An unsupported entry is not named.**  A `hashedrekord` body is a parse error. -/
theorem hashedrekord_not_unsupported :
    StrictObject hashedrekordX hashedrekordText hashedrekordMembers ∧
      member hashedrekordMembers "kind" = some (.string "hashedrekord".toList) ∧
      member hashedrekordMembers "apiVersion" = some (.string tlogEntryApiVersion) ∧
      parseTlogEntryBody hashedrekordX hashedrekordText ≠
        .error (.unsupported
          (.tlogEntryKindVersion "hashedrekord".toList tlogEntryApiVersion)) := by
  obtain ⟨hkind, hversion⟩ := member_hashedrekord
  refine ⟨strictObject_hashedrekord, hkind, hversion, fun h => ?_⟩
  have hshape := (tlogEntryBody_unsupported_iff strictObject_hashedrekord hkind hversion
    (by decide +kernel)).mp h
  -- its `spec` has no `envelopeHash`, so the decoder stops there
  have hnone : rawTlogEntryBody (.object hashedrekordMembers) = none := by rfl
  have hsome := (accepts_rawTlogEntryBody (.object hashedrekordMembers)).mpr hshape
  rw [hnone] at hsome
  simp at hsome

end AttestationVerify
