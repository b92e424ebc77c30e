import AttestationVerify.Precert
import AttestationVerify.Rekor.Publication
import AttestationVerify.SctCodec
import AttestationVerify.StatementFormat
import AttestationVerify.Verifier

namespace AttestationVerify

open Wire Wire.Json Wire.Serde Wire.Rfc6962 Wire.Asn1

/-!
# An issued attestation

The other side of the chain: what the signer, the authority, the CT log and the transparency log
do, and that the verifier accepts it.

* `EmbedsScts` — a leaf made of a precertificate and the SCTs handed out for it;
* `verifyEmbeddedScts_issued` — such a leaf is accepted exactly when one SCT is a trusted log's
  for that precertificate;
* `Verifier.verifyDigest_issued` — a bundle put together by honest parties is accepted, and the
  report says what they meant.
-/

/-! ### Embedding -/

section Embedding

variable {X : Externals} {scope : DerScope} {leaf : X509Certificate} {fields : List AnyRef}
  {extensions : List Extension} {k : ℕ} {scts : List ParsedSct} {value : Bytes}

/-- The leaf is the precertificate of these fields and extensions, with the SCTs put in as its
    `k`-th extension. -/
structure EmbedsScts (X : Externals) (scope : DerScope) (leaf : X509Certificate)
    (fields : List AnyRef) (extensions : List Extension) (k : ℕ) (scts : List ParsedSct)
    (value : Bytes) : Prop where
  place : k ≤ extensions.length
  others : ∀ ext ∈ extensions, ext.extnId ≠ sctListOid
  extensions_eq : leaf.tbsCertificate.extensions =
    some (extensions.insertIdx k ⟨sctListOid, false, value⟩)
  der_eq : leaf.tbsCertificate.der =
    some (tbsDer fields (extensions.insertIdx k ⟨sctListOid, false, value⟩))
  octets : X.der.octetString value = some (encodeSctList scts)
  fits : FitsPrefixes scts
  represented : scope.Holds fields (extensions.insertIdx k ⟨sctListOid, false, value⟩)

/-- An inserted extension is the only one of its identifier. -/
theorem onlyExtension_insertIdx {ext : Extension} (hplace : k ≤ extensions.length)
    (hothers : ∀ other ∈ extensions, other.extnId ≠ ext.extnId) :
    OnlyExtension (extensions.insertIdx k ext) ext.extnId (some ext) := by
  induction k generalizing extensions with
  | zero => exact ⟨[], extensions, by simp, rfl, hothers⟩
  | succ k ih =>
    cases extensions with
    | nil => simp at hplace
    | cons first rest =>
      obtain ⟨hfirst, hrest⟩ := List.forall_mem_cons.mp hothers
      obtain ⟨before, after, heq, hid, hne⟩ := ih (by simpa using hplace) hrest
      refine ⟨first :: before, after, by rw [List.insertIdx_succ_cons, heq]; rfl, hid, ?_⟩
      rw [List.cons_append]
      exact List.forall_mem_cons.mpr ⟨hfirst, hne⟩

/-- The list is found among the extensions and read back. -/
theorem extractSctListBytes_embedded
    (h : EmbedsScts X scope leaf fields extensions k scts value) :
    extractSctListBytes X leaf.tbsCertificate = .ok (encodeSctList scts) := by
  have hfind : findExtension (extensionsSlice leaf.tbsCertificate) sctListOid =
      .ok (some ⟨sctListOid, false, value⟩) := by
    rw [extensionsSlice, h.extensions_eq, Option.getD_some, findExtension_eq_ok]
    exact onlyExtension_insertIdx h.place h.others
  rw [extractSctListBytes, hfind, ok_bind, okOr_some, ok_bind, h.octets, okOr_some]

/-- **An embedded SCT list is judged by what was embedded**: wherever the list was put, the leaf is
    accepted exactly when one of its SCTs is that of a selected log for the precertificate. -/
theorem verifyEmbeddedScts_issued (hder : CanonicalDer X.der scope)
    (h : EmbedsScts X scope leaf fields extensions k scts value) {validated : ValidatedLeaf}
    (hleaf : validated.leaf = leaf) (trustStore : TrustStore) :
    verifyEmbeddedScts X validated trustStore = .ok () ↔
      ∃ sct ∈ scts, ∃ log, selectCtLog X trustStore sct.logId = some log ∧
        SctSigned X sct (tbsDer fields extensions) (X.sha256 validated.issuerSpkiDer) log := by
  have hprecert : precertTbsDer X (tbsDer fields (extensions.insertIdx k
      ⟨sctListOid, false, value⟩)) = .ok (tbsDer fields extensions) := by
    rw [precertTbsDer_tbsDer hder h.represented, filter_insertIdx k (by simp)]
    exact fun ext hext => decide_eq_true (h.others ext hext)
  rw [verifyEmbeddedScts_eq_ok]
  subst hleaf
  constructor
  · rintro ⟨sctListBytes, scts', der, precertTbs, hbytes, hscts, hder', hprecert', hsct⟩
    -- every part is the one that was put in
    rw [extractSctListBytes_embedded h] at hbytes
    obtain rfl := Except.ok.inj hbytes
    rw [parseSctList_eq_ok.mpr ⟨h.fits, rfl⟩] at hscts
    obtain rfl := Except.ok.inj hscts
    obtain rfl := Option.some.inj (h.der_eq.symm.trans hder')
    obtain rfl := Except.ok.inj (hprecert.symm.trans hprecert')
    exact hsct
  · intro hsct
    exact ⟨_, scts, _, _, extractSctListBytes_embedded h, parseSctList_eq_ok.mpr ⟨h.fits, rfl⟩,
      h.der_eq, hprecert, hsct⟩

end Embedding

/-! ### The whole chain -/

section Chain

variable {X : Externals}

/-- The signer's side: a provenance statement that names the subject, signed with the leaf's key
    as the in-toto payload it is. -/
structure Signed (X : Externals) (envelope : DsseEnvelope) (raw : RawStatement)
    (statement : Statement) (validated : ValidatedLeaf) : Prop where
  payloadType : envelope.payloadType = supportedDssePayloadType
  reads : PayloadReads X envelope.payload raw
  read : StatementRead raw statement
  predicateType : raw.predicateType = supportedPredicateType
  signature : ∃ key, EcdsaVerifyingKey.fromSpkiDer X validated.leafSpkiDer = .ok key ∧
    key.verifyDer X (pae envelope.payloadType envelope.payload) envelope.signature.sig = true

/-- The certificate's side, at the promised time: anchored, with a signed SCT, and with claims that
    satisfy the policy. -/
structure Certified (X : Externals) (verifier : Verifier X) (leaf : X509Certificate) (t : ℤ)
    (validated : ValidatedLeaf) (claims : FulcioClaims) (owner name ref : Str)
    (signer : SignerUriParts) : Prop where
  anchored : FirstAnchors X verifier.trustStore leaf t validated
  sct : HasSignedSct X validated verifier.trustStore
  extracted : extractClaims X validated = .ok claims
  satisfies : Satisfies verifier.githubPolicy claims owner name ref signer

section Issued

variable {verifier : Verifier X} {bundle : Bundle} {raw : RawStatement} {statement : Statement}
  {subject : Subject} {before after : List RawStatementSubject} {named : RawStatementSubject}
  {canonicalizedBody : Bytes} {p : Publication} {log : TransparencyLog} {logKey : EcdsaVerifyingKey}
  {leaf : X509Certificate} {validated : ValidatedLeaf} {claims : FulcioClaims}
  {owner name ref : Str} {signer : SignerUriParts}

/-- An artefact whose signer, log and certificate authority did their part is accepted. -/
theorem accepted_issued (hsigned : Signed X bundle.dsseEnvelope raw statement validated)
    (hsubject : raw.subject = before ++ named :: after) (hnames : named.Names subject)
    (hbefore : ∀ s ∈ before, ¬ s.Names subject)
    (hentries : bundle.verificationMaterial.tlogEntries =
      [p.tlogEntry X (X.sha256 log.publicKey.rawBytes) canonicalizedBody])
    (hparsed : parseTlogEntryBody X canonicalizedBody =
      .ok (entryBody X bundle.dsseEnvelope bundle.verificationMaterial.certificate.rawBytes))
    (hhonest : p.Honest X log logKey canonicalizedBody)
    (htrusted : Trusted X bundle verifier.trustStore verifier.checkpointOriginPolicy log logKey
      leaf p)
    (hcertified : Certified X verifier leaf p.integratedTime.toNat validated claims owner name ref
      signer) :
    Accepted verifier subject bundle statement ⟨named.name, some subject⟩
      (p.tlogEntry X (X.sha256 log.publicKey.rawBytes) canonicalizedBody) leaf claims where
  statement :=
    { payloadType := hsigned.payloadType
      parsed := fromPayload_eq_ok.mpr ⟨raw, hsigned.reads, hsigned.read⟩
      predicateType := hsigned.read.predicateType.trans hsigned.predicateType
      subject := Statement.findSubject_eq_some_iff.mp ((findSubject_eq_some hsigned.read).mpr
        ⟨before, named, after, hsubject, hnames, hbefore, rfl⟩) }
  entry := ⟨_, log, logKey, _, _, entryVerified_published hentries hparsed hhonest htrusted⟩
  leaf := ⟨validated, hcertified.anchored, hsigned.signature, hcertified.sct,
    hcertified.extracted⟩

/-- **What honest parties issue is accepted.**  A statement signed with the leaf's key, the leaf
    anchored and in an SCT, the envelope and the leaf stored in the log, at any place of any tree:
    the bundle of these is accepted for every digest the statement names, with the name of the
    first subject that has it, the certificate's identity and the promise's time and index. -/
theorem Verifier.verifyDigest_issued
    (hsigned : Signed X bundle.dsseEnvelope raw statement validated)
    (hsubject : raw.subject = before ++ named :: after) (hnames : named.Names subject)
    (hbefore : ∀ s ∈ before, ¬ s.Names subject)
    (hentries : bundle.verificationMaterial.tlogEntries =
      [p.tlogEntry X (X.sha256 log.publicKey.rawBytes) canonicalizedBody])
    (hparsed : parseTlogEntryBody X canonicalizedBody =
      .ok (entryBody X bundle.dsseEnvelope bundle.verificationMaterial.certificate.rawBytes))
    (hhonest : p.Honest X log logKey canonicalizedBody)
    (htrusted : Trusted X bundle verifier.trustStore verifier.checkpointOriginPolicy log logKey
      leaf p)
    (hcertified : Certified X verifier leaf p.integratedTime.toNat validated claims owner name ref
      signer) :
    verifier.verifyDigest subject bundle = .ok
      { subject := ⟨subject, named.name⟩
        signer := ⟨expectedIssuer, ownerSlashName owner name, ref,
          ownerSlashName signer.owner signer.name, signer.workflowPath⟩
        transparency := ⟨p.logIndex, p.integratedTime⟩
        statement := ⟨raw.predicateType, raw.predicate⟩
        trust := ⟨verifier.trustStore.fingerprint, verifier.trustStore.source⟩ } := by
  have haccepted := accepted_issued hsigned hsubject hnames hbefore hentries hparsed hhonest
    htrusted hcertified
  refine verifyDigest_eq_ok.mpr ⟨statement, _, _, leaf, claims, haccepted, owner, name, ref, signer,
    hcertified.satisfies, ?_⟩
  rw [VerificationReport.of, hsigned.read.predicateType, hsigned.read.predicate]
  rfl

end Issued

end Chain

/-! ### An attestation

One small attestation that holds in every check, with the SHA-256 digests and the signatures it
goes with.  The transparency log has a key of its own.
-/

namespace Specimen

/-- The key of the signer, its authority and the CT log. -/
def spki : Bytes :=
  [48, 89, 48, 19, 6, 7, 42, 134, 72, 206, 61, 2, 1, 6, 8, 42, 134, 72, 206, 61, 3, 1, 7, 3, 66,
  0, 4, 131, 16, 168, 73, 192, 249, 106, 255, 105, 33, 241, 109, 132, 213, 175, 10, 79, 34, 39,
  178, 46, 242, 154, 80, 70, 121, 214, 150, 120, 168, 213, 204, 23, 109, 40, 117, 251, 44, 74,
  189, 17, 8, 212, 188, 79, 49, 84, 122, 140, 240, 234, 49, 94, 133, 8, 28, 24, 73, 127, 217, 41,
  89, 225, 26]

/-- The point of the signer's key. -/
def point : Bytes := spki.drop 26

/-- The SHA-256 of the signer's key, the CT log's id. -/
def keyId : Octets 32 :=
  ⟨[5, 69, 66, 237, 117, 66, 216, 56, 255, 65, 151, 98, 10, 190, 26, 145, 161, 245, 73, 168, 133,
  117, 123, 232, 163, 108, 62, 143, 226, 89, 144, 142], rfl⟩

/-- The key of the transparency log. -/
def logSpki : Bytes :=
  [48, 89, 48, 19, 6, 7, 42, 134, 72, 206, 61, 2, 1, 6, 8, 42, 134, 72, 206, 61, 3, 1, 7, 3, 66,
  0, 4, 113, 80, 238, 124, 85, 79, 121, 126, 217, 254, 67, 74, 228, 17, 156, 169, 177, 46, 110,
  246, 133, 16, 4, 166, 196, 235, 103, 10, 145, 147, 59, 4, 58, 207, 18, 205, 77, 20, 62, 110, 54,
  246, 91, 147, 104, 57, 32, 133, 101, 43, 149, 175, 9, 149, 19, 220, 30, 251, 73, 212, 45, 87,
  175, 238]

/-- The point of the log's key. -/
def logPoint : Bytes := logSpki.drop 26

/-- The SHA-256 of the log's key, its id. -/
def logKeyId : Octets 32 :=
  ⟨[70, 140, 190, 221, 233, 243, 150, 136, 93, 230, 209, 236, 21, 190, 113, 82, 34, 196, 167, 13,
  73, 0, 71, 112, 215, 131, 158, 100, 227, 232, 104, 123], rfl⟩

/-- The CT log's signature for the leaf's precertificate. -/
def precertSignature : Bytes :=
  [48, 68, 2, 32, 43, 65, 184, 254, 18, 78, 81, 219, 252, 12, 23, 81, 171, 23, 94, 177, 236, 114,
  77, 12, 252, 99, 150, 112, 17, 31, 246, 7, 130, 122, 41, 244, 2, 32, 18, 58, 233, 170, 195, 143,
  57, 111, 37, 13, 239, 134, 110, 29, 49, 121, 29, 233, 69, 172, 83, 86, 143, 209, 59, 89, 100,
  143, 161, 52, 92, 73]

/-- The CT log's signature for the small precertificate below. -/
def smallSignature : Bytes :=
  [48, 70, 2, 33, 0, 150, 23, 247, 242, 251, 77, 139, 36, 125, 229, 48, 169, 109, 212, 212, 26,
  15, 23, 147, 134, 127, 184, 45, 238, 155, 173, 234, 144, 23, 16, 35, 201, 2, 33, 0, 177, 233,
  48, 246, 117, 23, 94, 45, 14, 71, 64, 23, 224, 250, 174, 161, 120, 243, 255, 201, 112, 121, 7,
  0, 82, 115, 226, 62, 22, 190, 141, 165]

/-- The authority's signature on the leaf. -/
def leafSignature : Bytes :=
  [48, 69, 2, 32, 34, 109, 207, 204, 55, 117, 56, 37, 159, 49, 128, 203, 248, 73, 225, 138, 239,
  67, 144, 174, 174, 131, 186, 62, 16, 138, 217, 140, 230, 95, 38, 204, 2, 33, 0, 150, 18, 164,
  50, 172, 126, 125, 180, 150, 81, 171, 33, 116, 49, 174, 95, 152, 220, 227, 15, 70, 22, 131, 21,
  250, 237, 44, 84, 118, 216, 126, 86]

/-- The authority's signature on its own certificate. -/
def caSignature : Bytes :=
  [48, 68, 2, 32, 111, 66, 166, 135, 46, 147, 110, 59, 135, 125, 68, 241, 181, 253, 243, 108, 87,
  122, 27, 76, 240, 112, 184, 255, 162, 244, 138, 89, 193, 254, 82, 6, 2, 32, 19, 88, 20, 174, 11,
  211, 94, 51, 11, 80, 76, 34, 9, 155, 46, 202, 95, 244, 11, 128, 190, 134, 245, 131, 93, 107,
  158, 71, 137, 233, 184, 76]

/-- The leaf's signature on the envelope. -/
def envelopeSignature : Bytes :=
  [48, 70, 2, 33, 0, 218, 243, 12, 174, 189, 181, 8, 23, 28, 20, 45, 32, 17, 118, 107, 146, 65,
  224, 141, 91, 1, 23, 134, 125, 4, 192, 205, 99, 19, 102, 129, 105, 2, 33, 0, 218, 149, 156, 170,
  253, 83, 26, 173, 169, 70, 61, 54, 147, 88, 210, 172, 81, 121, 50, 253, 58, 243, 114, 73, 44,
  29, 252, 206, 88, 103, 44, 200]

/-- The log's signatures of two promises for one body. -/
def promiseSignature : Bytes :=
  [48, 69, 2, 33, 0, 231, 82, 207, 139, 144, 73, 186, 148, 39, 126, 21, 12, 124, 231, 102, 255,
  208, 64, 108, 53, 92, 103, 211, 187, 73, 163, 143, 220, 67, 183, 47, 76, 2, 32, 83, 30, 129, 85,
  113, 184, 227, 231, 75, 163, 49, 172, 4, 205, 117, 5, 252, 228, 193, 163, 205, 204, 191, 54,
  230, 52, 105, 7, 156, 61, 21, 3]

/-- The second of them, of a later time and index. -/
def repromiseSignature : Bytes :=
  [48, 70, 2, 33, 0, 165, 32, 62, 200, 34, 127, 86, 23, 186, 88, 232, 223, 242, 131, 41, 179, 204,
  178, 185, 97, 180, 191, 48, 136, 147, 112, 196, 29, 23, 78, 254, 206, 2, 33, 0, 142, 8, 59, 167,
  182, 48, 249, 163, 12, 85, 10, 220, 168, 147, 252, 178, 116, 143, 95, 30, 235, 181, 171, 98, 69,
  218, 245, 73, 164, 204, 50, 184]

/-- The log's and a witness's signatures of one tree head. -/
def noteSignature : Bytes :=
  [48, 68, 2, 32, 47, 149, 17, 36, 182, 66, 184, 185, 241, 205, 215, 57, 239, 23, 164, 194, 156,
  177, 119, 104, 170, 226, 82, 144, 30, 4, 38, 90, 244, 130, 149, 91, 2, 32, 74, 253, 57, 51, 86,
  99, 26, 61, 121, 50, 116, 252, 82, 224, 139, 62, 222, 14, 10, 22, 238, 10, 65, 169, 33, 58, 25,
  224, 184, 102, 161, 219]

/-- The witness's signature. -/
def witnessSignature : Bytes :=
  [48, 69, 2, 33, 0, 228, 35, 111, 229, 141, 233, 96, 21, 121, 150, 35, 204, 189, 171, 4, 16, 153,
  78, 96, 237, 93, 111, 40, 207, 234, 15, 239, 94, 85, 238, 121, 223, 2, 32, 46, 7, 205, 74, 139,
  177, 143, 1, 19, 54, 19, 71, 59, 118, 228, 139, 138, 127, 177, 154, 72, 166, 101, 94, 232, 186,
  189, 14, 183, 216, 111, 86]

/-- The log's signature of the tree head before it. -/
def earlierNoteSignature : Bytes :=
  [48, 68, 2, 32, 89, 55, 33, 68, 36, 212, 109, 66, 176, 181, 100, 122, 65, 151, 106, 123, 22, 73,
  181, 121, 180, 55, 246, 46, 172, 196, 43, 69, 122, 226, 217, 150, 2, 32, 71, 235, 234, 176, 43,
  90, 70, 134, 91, 29, 123, 2, 3, 65, 60, 249, 32, 162, 13, 28, 244, 199, 203, 17, 14, 236, 21,
  114, 230, 166, 185, 195]

/-- The SHA-256 of the artefact. -/
def artifactDigest : Octets 32 :=
  ⟨[199, 197, 193, 215, 12, 93, 236, 68, 22, 171, 97, 88, 175, 208, 178, 35, 239, 64, 194, 155,
  29, 193, 249, 126, 217, 66, 139, 148, 212, 202, 219, 28], rfl⟩

/-- The SHA-256 of the payload. -/
def payloadHash : Octets 32 :=
  ⟨[120, 99, 226, 194, 7, 230, 226, 99, 152, 106, 57, 192, 123, 13, 189, 131, 110, 229, 37, 28,
  115, 243, 239, 128, 91, 114, 38, 97, 99, 74, 190, 191], rfl⟩

/-- The SHA-256 of the envelope's JSON. -/
def envelopeHash : Octets 32 :=
  ⟨[208, 219, 223, 209, 106, 116, 14, 144, 127, 75, 177, 72, 155, 113, 239, 143, 130, 30, 155,
  245, 147, 145, 221, 97, 241, 236, 74, 191, 62, 236, 68, 7], rfl⟩

/-- The hashes of the log's three leaves. -/
def earlierLeaf : Octets 32 :=
  ⟨[116, 191, 242, 97, 145, 227, 221, 165, 65, 155, 48, 70, 244, 132, 64, 101, 97, 9, 207, 159,
  195, 81, 138, 151, 218, 24, 59, 43, 114, 255, 242, 202], rfl⟩

/-- The hash of the entry's body as a leaf. -/
def bodyLeaf : Octets 32 :=
  ⟨[226, 200, 58, 50, 49, 96, 229, 65, 186, 123, 96, 142, 22, 2, 63, 118, 3, 218, 103, 179, 187,
  76, 53, 65, 199, 134, 16, 250, 33, 111, 43, 161], rfl⟩

/-- The hash of the body after it. -/
def laterLeaf : Octets 32 :=
  ⟨[98, 183, 196, 32, 150, 191, 147, 99, 249, 174, 86, 132, 25, 82, 192, 24, 105, 56, 201, 223,
  207, 127, 46, 224, 73, 253, 106, 244, 121, 225, 22, 207], rfl⟩

/-- The roots of its first two and of all three. -/
def earlierRoot : Octets 32 :=
  ⟨[154, 15, 80, 236, 167, 245, 0, 111, 23, 58, 153, 138, 153, 71, 111, 239, 184, 208, 82, 63,
  105, 93, 204, 112, 27, 29, 145, 33, 72, 68, 62, 224], rfl⟩

/-- The root over all three. -/
def rootHash : Octets 32 :=
  ⟨[100, 108, 137, 166, 152, 106, 241, 105, 162, 148, 22, 95, 15, 178, 151, 205, 193, 200, 225,
  33, 239, 147, 228, 78, 253, 1, 120, 198, 20, 193, 39, 170], rfl⟩

/-- The algorithm identifier `ecdsa-with-SHA256`. -/
def ecdsaAlgorithm : AnyRef := ⟨0x30, tlv 0x06 (objectIdentifier ecdsaWithSha256)⟩

/-- The fields of a `TBSCertificate` before its extensions: all names are empty. -/
def tbsFields (serial : UInt8) (validity : Str) : List AnyRef :=
  [⟨0xA0, [2, 1, 2]⟩, ⟨0x02, [serial]⟩, ecdsaAlgorithm, ⟨0x30, []⟩, ⟨0x30, utf8 validity⟩,
    ⟨0x30, []⟩, ⟨0x30, spki.drop 2⟩]

/-- A certificate in DER, under an ECDSA signature. -/
def certificateDer (tbs signature : Bytes) : Bytes :=
  tlv 0x30 (tbs ++ tlv 0x30 ecdsaAlgorithm.value ++ tlv 0x03 (0 :: signature))

/-! #### The leaf -/

/-- The ref `refs/heads/main`. -/
def sourceRef : Str :=
  ['r', 'e', 'f', 's', '/', 'h', 'e', 'a', 'd', 's', '/', 'm', 'a', 'i', 'n']

/-- The signing workflow. -/
def signer : SignerUriParts :=
  ⟨['o'], ['r'], workflowPathPrefix ++ ['w', '.', 'y', 'm', 'l'], sourceRef⟩

/-- The URI of the signing workflow. -/
def sanUri : Str := signer.render

/-- The repository's URI. -/
def repositoryUri : Str := githubUriPrefix ++ ownerSlashName ['o'] ['r']

/-- The usage `digitalSignature`. -/
def keyUsageValue : Bytes := [3, 2, 7, 128]

/-- The code signing purpose. -/
def extKeyUsageValue : Bytes := [48, 10, 6, 8, 43, 6, 1, 5, 5, 7, 3, 3]

/-- The workflow's URI as the alternative name. -/
def sanValue : Bytes := tlv 0x30 (tlv 0x86 (utf8 sanUri))

/-- A claim as a DER string. -/
def claimValue (claim : Str) : Bytes := tlv 0x0C (utf8 claim)

/-- The leaf's extensions without the SCT list. -/
def leafExtensions : List Extension :=
  [⟨idCeKeyUsage, true, keyUsageValue⟩, ⟨idCeExtKeyUsage, false, extKeyUsageValue⟩,
    ⟨idCeSubjectAltName, true, sanValue⟩, ⟨fulcioOid 8, false, claimValue expectedIssuer⟩,
    ⟨fulcioOid 12, false, claimValue repositoryUri⟩, ⟨fulcioOid 14, false, claimValue sourceRef⟩]

/-- The leaf's other fields. -/
def leafFields : List AnyRef := tbsFields 2 "\x17\r240101000000Z\x17\r240101001000Z".toList

/-- What the CT log saw of the leaf. -/
def precertTbs : Bytes := tbsDer leafFields leafExtensions

/-- The SCT it handed out. -/
def sct : ParsedSct := ⟨sctVersionV1, keyId, 1704067201000, [], hashAlgorithmSha256,
  signatureAlgorithmEcdsa, precertSignature⟩

/-- The list with this one SCT. -/
def sctListValue : Bytes := tlv 0x04 (encodeSctList [sct])

/-- The leaf's extensions with the list. -/
def embedded : List Extension := leafExtensions ++ [⟨sctListOid, false, sctListValue⟩]

/-- What the authority signed for the leaf. -/
def leafTbs : Bytes := tbsDer leafFields embedded

/-- The leaf in DER. -/
def leafDer : Bytes := certificateDer leafTbs leafSignature

/-- The leaf decoded. -/
def leaf : X509Certificate where
  tbsCertificate :=
    { subject := [48, 0]
      issuer := [48, 0]
      notBefore := 1704067200
      notAfter := 1704067800
      spkiDer := some spki
      extensions := some embedded
      der := some leafTbs }
  signatureAlgorithm := ecdsaWithSha256
  signature := leafSignature

/-! #### Its authority -/

/-- An authority without a limit on its path. -/
def basicConstraintsValue : Bytes := [48, 3, 1, 1, 255]

/-- The usage `keyCertSign`. -/
def caKeyUsageValue : Bytes := [3, 2, 2, 4]

/-- The authority's extensions. -/
def caExtensions : List Extension :=
  [⟨idCeBasicConstraints, true, basicConstraintsValue⟩, ⟨idCeKeyUsage, true, caKeyUsageValue⟩]

/-- What the authority signed for itself. -/
def caTbs : Bytes :=
  tbsDer (tbsFields 1 "\x17\r230101000000Z\x17\r330101000000Z".toList) caExtensions

/-- The authority's certificate in DER. -/
def caDer : Bytes := certificateDer caTbs caSignature

/-- The authority's certificate decoded. -/
def ca : X509Certificate where
  tbsCertificate :=
    { subject := [48, 0]
      issuer := [48, 0]
      notBefore := 1672531200
      notAfter := 1988150400
      spkiDer := some spki
      extensions := some caExtensions
      der := some caTbs }
  signatureAlgorithm := ecdsaWithSha256
  signature := caSignature

/-! #### The statement and the entry -/

/-- The attested artefact. -/
def subject : Subject := ⟨artifactDigest⟩

/-- The statement as the signer wrote it. -/
def raw : RawStatement where
  type_ := statementType
  subject := [⟨some ['a'], [("sha256".toList, subject.toHex)]⟩]
  predicateType := supportedPredicateType
  predicate := .object []

/-- The text of the statement. -/
def payload : Bytes := utf8
  ("\x7b\"_type\":".toList ++ "\"https://in-toto.io/Statement/v1\",\"subject\":".toList ++
    "[\x7b\"name\":\"a\",\"digest\":\x7b\"sha256\":\"".toList ++ subject.toHex ++
    "\"\x7d\x7d],\"predicateType\":\"https://slsa.dev/provenance/v1\",".toList ++
    "\"predicate\":\x7b\x7d\x7d".toList)

/-- The signed envelope. -/
def envelope : DsseEnvelope := ⟨payload, supportedDssePayloadType, ⟨envelopeSignature, none⟩⟩

/-- The leaf certificate as the log stores it. -/
def verifierText : Str := pemText leafDer

/-- The document stored for the envelope. -/
def document : Value := storedDocument envelopeHash payloadHash envelopeSignature verifierText

/-- The document's text, the body of the entry. -/
def canonicalizedBody : Bytes :=
  storedText envelopeHash payloadHash envelopeSignature verifierText

/-! #### The log -/

/-- The body the log took in before, `{"kind":"rekord"}`. -/
def earlierBody : Bytes :=
  [123, 34, 107, 105, 110, 100, 34, 58, 34, 114, 101, 107, 111, 114, 100, 34, 125]

/-- The body it took in after, `{"kind":"rpm"}`. -/
def laterBody : Bytes := [123, 34, 107, 105, 110, 100, 34, 58, 34, 114, 112, 109, 34, 125]

/-- The name under which the log signs its tree heads. -/
def origin : Str := "log.test".toList

/-- The name is not empty. -/
theorem origin_ne : origin ≠ [] := by decide

/-- The name is one line. -/
theorem origin_lf : '\n' ∉ origin := by decide

/-- A root is not empty. -/
theorem bytes_ne (root : Octets 32) : root.bytes ≠ [] := by
  intro h
  have hlength := root.length_eq
  rw [h] at hlength
  cases hlength

/-- The notes have no further lines, so none is empty. -/
theorem extensions_ne : ∀ line ∈ ([] : List Str), line ≠ [] := List.forall_mem_nil _

/-- The notes have no further lines, so none is broken. -/
theorem extensions_lf : ∀ line ∈ ([] : List Str), '\n' ∉ line := List.forall_mem_nil _

/-- The note over a tree of that size with that root. -/
def noteOver (treeSize : UInt64) (root : Octets 32) : CheckpointNote where
  origin := origin
  treeSize := treeSize
  rootHash := root.bytes
  extensions := []
  origin_ne := origin_ne
  origin_lf := origin_lf
  rootHash_ne := bytes_ne root
  extensions_ne := extensions_ne
  extensions_lf := extensions_lf

/-- The first bytes of the log's key id, by which its line is found. -/
def logHint : Octets 4 := ⟨logKeyId.bytes.take 4, rfl⟩

/-- The log's line under the note over all three leaves. -/
def noteLine : WritableSignature where
  name := origin
  keyHint := logHint
  signature := noteSignature
  name_space := by decide
  name_lf := by decide
  signature_ne := by decide

/-- The log's line under the note over the first two. -/
def earlierNoteLine : WritableSignature where
  name := origin
  keyHint := logHint
  signature := earlierNoteSignature
  name_space := by decide
  name_lf := by decide
  signature_ne := by decide

/-- The line of a witness, who signs with the signer's key. -/
def witnessLine : WritableSignature where
  name := "witness.test".toList
  keyHint := ⟨keyId.bytes.take 4, rfl⟩
  signature := witnessSignature
  name_space := by decide
  name_lf := by decide
  signature_ne := by decide

/-- The line of a key that nobody here knows. -/
def unknownLine : WritableSignature where
  name := "other.test".toList
  keyHint := ⟨[1, 2, 3, 4], rfl⟩
  signature := [0]
  name_space := by decide
  name_lf := by decide
  signature_ne := List.cons_ne_nil _ _

/-- The body as the second of three leaves. -/
def publication : Publication where
  leaves := [earlierBody, canonicalizedBody, laterBody]
  index := 1
  logIndex := 7
  integratedTime := 1704067205
  promise := promiseSignature
  note := noteOver 3 rootHash
  signatures := [noteLine, witnessLine, unknownLine]

/-! #### The libraries -/

/-- What the CT log signs for a precertificate. -/
def sctMessage (precertTbs : Bytes) : Bytes :=
  sctVersionV1 :: signatureTypeCertificateTimestamp :: (toBeBytes 8 sct.timestampMs.toNat ++
    toBeBytes 2 logEntryTypePrecert ++ keyId.bytes ++ toBeBytes 3 precertTbs.length ++
    precertTbs ++ toBeBytes 2 sct.extensions.length ++ sct.extensions)

/-- The precertificate of a small leaf, with one field and one extension. -/
def smallPrecert : Bytes := tbsDer [⟨0x02, [2]⟩] [⟨idCeKeyUsage, true, keyUsageValue⟩]

/-- What the log signs to promise the body. -/
def promiseMessage (integratedTime logIndex : UInt64) : Bytes :=
  setSignedBytes canonicalizedBody integratedTime logKeyId.bytes logIndex

/-- What was signed, and with which key. -/
def signatures : List (Bytes × Bytes × Bytes) :=
  [(point, caTbs, caSignature), (point, leafTbs, leafSignature),
    (point, sctMessage precertTbs, precertSignature),
    (point, sctMessage smallPrecert, smallSignature),
    (point, pae supportedDssePayloadType payload, envelopeSignature),
    (point, utf8 (noteOver 3 rootHash).noteBody, witnessSignature),
    (logPoint, promiseMessage 1704067205 7, promiseSignature),
    (logPoint, promiseMessage 1704067260 9, repromiseSignature),
    (logPoint, utf8 (noteOver 3 rootHash).noteBody, noteSignature),
    (logPoint, utf8 (noteOver 2 earlierRoot).noteBody, earlierNoteSignature)]

/-- A library that knows these inputs. -/
def table {α : Type} (entries : List (Bytes × α)) (bytes : Bytes) : Option α :=
  entries.lookup bytes

/-- The first input is found. -/
theorem table_head {α : Type} (bytes : Bytes) (value : α) (entries : List (Bytes × α)) :
    table ((bytes, value) :: entries) bytes = some value := List.lookup_cons_self

/-- Another input is looked up in the rest. -/
theorem table_tail {α : Type} {bytes other : Bytes} (value : α) (entries : List (Bytes × α))
    (h : other ≠ bytes) : table ((bytes, value) :: entries) other = table entries other := by
  rw [table, List.lookup_cons, beq_eq_false_iff_ne.mpr h, table]

attribute [irreducible] table

/-- A DER library for the certificates above. -/
def der : Der :=
  { (Externals.ofTexts []).der with
    certificate := table [(caDer, ca), (leafDer, leaf)]
    basicConstraints := table [(basicConstraintsValue, ⟨true, none⟩)]
    keyUsage := table [(keyUsageValue, ⟨true, false⟩), (caKeyUsageValue, ⟨false, true⟩)]
    extendedKeyUsage := table [(extKeyUsageValue, [idKpCodeSigning])]
    subjectAltName := table [(sanValue, [.uniformResourceIdentifier sanUri])]
    octetString := table [(sctListValue, encodeSctList [sct])]
    utf8String := table [(claimValue expectedIssuer, expectedIssuer),
      (claimValue repositoryUri, repositoryUri), (claimValue sourceRef, sourceRef)]
    anySequence := table [(leafTbs, leafFields ++ [extensionsField embedded])]
    anySequenceToDer := fun fields => some (sequenceDer fields)
    anyNew := fun tag value => some ⟨tag, value⟩
    extensions := table [(extensionsDer embedded, embedded)]
    extensionsToDer := fun extensions => some (extensionsDer extensions) }

/-- The digests of the inputs that are short. -/
def shortDigests : List (Bytes × Octets 32) :=
  [(spki, keyId), (logSpki, logKeyId), (leafPreimage earlierBody, earlierLeaf),
    (leafPreimage laterBody, laterLeaf), (nodePreimage earlierLeaf bodyLeaf, earlierRoot),
    (nodePreimage earlierRoot laterLeaf, rootHash)]

/-- The digests of the inputs that are texts. -/
def textDigests : List (Bytes × Octets 32) :=
  [(leafPreimage canonicalizedBody, bodyLeaf), (payload, payloadHash),
    (utf8 (envelopeJson envelope), envelopeHash)]

/-- The two JSON texts that are read. -/
def texts : List (Bytes × Reading) :=
  [(payload, ⟨raw.toValue.toTree, true⟩), (canonicalizedBody, ⟨document.toTree, true⟩)]

/-- The libraries for the whole attestation. -/
def externals : Externals where
  readJson := (Externals.ofTexts texts).readJson
  sha256 := ((Externals.ofTexts []).withDigests (shortDigests ++ textDigests)).sha256
  p256 :=
    { fromPublicKeyDer := table [(spki, point), (logSpki, logPoint)]
      verify := fun key message signature => (key, message, signature) ∈ signatures }
  p384 := (Externals.ofTexts []).p384
  der := der

/-! #### What the libraries find -/

/-- The texts are told apart by how they start. -/
theorem exists_payload : ∃ rest, payload = 123 :: 34 :: 95 :: 116 :: rest := by
  unfold payload
  repeat rw [utf8_append]
  repeat rw [List.append_assoc]
  exact ⟨_, rfl⟩

/-- The body starts with `apiVersion`. -/
theorem exists_canonicalizedBody : ∃ rest, canonicalizedBody = 123 :: 34 :: 97 :: rest :=
  exists_storedText _ _ _ _

/-- The envelope starts with `payload`. -/
theorem exists_envelopeJson :
    ∃ rest, utf8 (envelopeJson envelope) = 123 :: 34 :: 112 :: 97 :: rest := by
  unfold envelopeJson
  repeat rw [utf8_append]
  repeat rw [List.append_assoc]
  exact ⟨_, rfl⟩

/-- A short input has the digest listed for it. -/
theorem sha256_short {bytes : Bytes} {digest : Octets 32}
    (h : shortDigests.lookup bytes = some digest) : externals.sha256 bytes = digest := by
  show ((shortDigests ++ textDigests).lookup bytes).getD _ = digest
  rw [List.lookup_append, h]
  rfl

/-- The signer's key has its id. -/
theorem sha256_spki : externals.sha256 spki = keyId := sha256_short (by decide)

/-- The log's key has its id. -/
theorem sha256_logSpki : externals.sha256 logSpki = logKeyId := sha256_short (by decide)

/-- A text is told apart from the short inputs by its first four bytes. -/
theorem sha256_text {bytes rest : Bytes} (start : Bytes) (hbytes : bytes = start ++ rest)
    (hstart : start.length = 4)
    (hne : ∀ entry ∈ shortDigests, entry.1.take 4 ≠ start) :
    externals.sha256 bytes = ((Externals.ofTexts []).withDigests textDigests).sha256 bytes := by
  have hnone : shortDigests.lookup bytes = none := by
    refine List.lookup_eq_none_iff.mpr fun entry hentry => ?_
    rw [bne_iff_ne]
    intro heq
    refine hne entry hentry ?_
    rw [← heq, hbytes, ← hstart, List.take_left]
  show ((shortDigests ++ textDigests).lookup bytes).getD _ = (textDigests.lookup bytes).getD _
  rw [List.lookup_append, hnone, Option.none_or]

/-- The body has its leaf hash. -/
theorem sha256_bodyLeaf : externals.sha256 (leafPreimage canonicalizedBody) = bodyLeaf := by
  obtain ⟨rest, hrest⟩ := exists_canonicalizedBody
  have hbytes : leafPreimage canonicalizedBody = [0, 123, 34, 97] ++ rest := by
    rw [leafPreimage, hrest]
    rfl
  rw [sha256_text _ hbytes rfl (by decide), textDigests, sha256_withDigests_head]

/-- The payload has its digest. -/
theorem sha256_payload : externals.sha256 payload = payloadHash := by
  obtain ⟨rest, hrest⟩ := exists_payload
  have hne : payload ≠ leafPreimage canonicalizedBody := by
    rw [hrest, leafPreimage]
    simp
  rw [sha256_text [123, 34, 95, 116] hrest rfl (by decide), textDigests,
    sha256_withDigests_tail _ _ _ hne, sha256_withDigests_head]

/-- The envelope has its digest. -/
theorem sha256_envelope : externals.sha256 (utf8 (envelopeJson envelope)) = envelopeHash := by
  obtain ⟨rest, hrest⟩ := exists_envelopeJson
  obtain ⟨rest', hrest'⟩ := exists_payload
  have hleaf : utf8 (envelopeJson envelope) ≠ leafPreimage canonicalizedBody := by
    rw [hrest, leafPreimage]
    simp
  have hpayload : utf8 (envelopeJson envelope) ≠ payload := by
    rw [hrest, hrest']
    simp
  rw [sha256_text [123, 34, 112, 97] hrest rfl (by decide), textDigests,
    sha256_withDigests_tail _ _ _ hleaf, sha256_withDigests_tail _ _ _ hpayload,
    sha256_withDigests_head]

/-- A key of the P-256 library is parsed. -/
theorem fromSpkiDer_of_table {spkiDer key : Bytes}
    (h : externals.p256.fromPublicKeyDer spkiDer = some key) :
    EcdsaVerifyingKey.fromSpkiDer externals spkiDer = .ok (.p256 key) := by
  rw [EcdsaVerifyingKey.fromSpkiDer, h]

/-- The signer's key is parsed. -/
theorem fromSpkiDer_spki : EcdsaVerifyingKey.fromSpkiDer externals spki = .ok (.p256 point) :=
  fromSpkiDer_of_table (table_head _ _ _)

/-- The log's key is parsed. -/
theorem fromSpkiDer_logSpki :
    EcdsaVerifyingKey.fromSpkiDer externals logSpki = .ok (.p256 logPoint) :=
  fromSpkiDer_of_table ((table_tail _ _ (by decide)).trans (table_head _ _ _))

/-- A signature verifies if it was made. -/
theorem verifyDer_iff {key message signature : Bytes} :
    (EcdsaVerifyingKey.p256 key).verifyDer externals message signature = true ↔
      (key, message, signature) ∈ signatures := decide_eq_true_iff

/-- An element ends with its content. -/
theorem suffix_tlv (tag : UInt8) (content : Bytes) : content <:+ tlv tag content :=
  (List.suffix_append _ _).trans (List.suffix_cons _ _)

/-- An encoded certificate ends in its signature. -/
theorem getLast?_certificateDer (tbs : Bytes) {signature : Bytes} (h : signature ≠ []) :
    (certificateDer tbs signature).getLast? = signature.getLast? := by
  have hsuffix : signature <:+ certificateDer tbs signature :=
    (((List.suffix_cons 0 signature).trans (suffix_tlv _ _)).trans (List.suffix_append _ _)).trans
      (suffix_tlv _ _)
  obtain ⟨front, hfront⟩ := hsuffix
  rw [← hfront, List.getLast?_append_of_ne_nil _ h]

/-- The authority's certificate is decoded. -/
theorem certificate_ca : externals.der.certificate caDer = some ca := table_head _ _ _

/-- The leaf is decoded. -/
theorem certificate_leaf : externals.der.certificate leafDer = some leaf := by
  have hne : leafDer ≠ caDer := by
    intro h
    have hlast := congrArg List.getLast? h
    rw [leafDer, caDer, getLast?_certificateDer _ (by decide),
      getLast?_certificateDer _ (by decide)] at hlast
    exact absurd hlast (by decide)
  exact (table_tail _ _ hne).trans (table_head _ _ _)

/-- JSON is read by the listed texts. -/
theorem readJson_externals (bytes : Bytes) :
    externals.readJson bytes = (Externals.ofTexts texts).readJson bytes := rfl

/-- The payload is read as the statement's document. -/
theorem readJson_payload : externals.readJson payload = ⟨raw.toValue.toTree, true⟩ := by
  rw [readJson_externals, texts, readJson_ofTexts_head]

/-- The body is read as the stored document. -/
theorem readJson_canonicalizedBody :
    externals.readJson canonicalizedBody = ⟨document.toTree, true⟩ := by
  obtain ⟨rest, hrest⟩ := exists_canonicalizedBody
  obtain ⟨rest', hrest'⟩ := exists_payload
  have hne : canonicalizedBody ≠ payload := by
    rw [hrest, hrest']
    simp
  rw [readJson_externals, texts, readJson_ofTexts_tail _ _ hne, readJson_ofTexts_head]

/-! #### The parties -/

/-- The document that Rekor stores for the envelope is the listed one. -/
theorem entryDocument_eq : entryDocument externals envelope verifierText = document := by
  rw [entryDocument, computeEnvelopeHash, sha256_envelope,
    show envelope.payload = payload from rfl, sha256_payload]
  rfl

/-- The stored document is the entry of the envelope. -/
theorem parseTlogEntryBody_canonicalizedBody :
    parseTlogEntryBody externals canonicalizedBody =
      .ok (entryBody externals envelope leafDer) := by
  refine parseTlogEntryBody_entryDocument (pemBlock_pemText leafDer) ?_
  rw [readJson_canonicalizedBody, ← entryDocument_eq]
  rfl

/-- All keys are in use from the start of 2023 on. -/
def window : ValidityPeriod := ⟨1672531200, none⟩

/-- The transparency log. -/
def log : TransparencyLog :=
  ⟨"https://log.test".toList, [], ⟨logSpki, [], window⟩, logKeyId.bytes, none⟩

/-- The CT log. -/
def ctLog : CtLog := ⟨"https://ct.test".toList, [], ⟨spki, [], window⟩, keyId.bytes⟩

/-- The certificate authority. -/
def authority : CertificateAuthority := ⟨⟨[], []⟩, [], [⟨caDer⟩], window⟩

/-- The trust store with the three of them. -/
def trustStore : TrustStore := ⟨trustedRootMediaType, [log], [ctLog], [authority], [], [], []⟩

/-- The owner has a name. -/
theorem owner_ne : ['o'] ≠ [] := List.cons_ne_nil _ _

/-- The repository has a name. -/
theorem name_ne : ['r'] ≠ [] := List.cons_ne_nil _ _

/-- The repository `o/r`. -/
def repository : RepositoryIdentity := ⟨['o'], ['r'], none, none, owner_ne, name_ne⟩

/-- The policy that asks for this repository, ref and workflow. -/
def githubPolicy : GithubPolicy where
  source := ⟨repository, .exact sourceRef, none⟩
  signer := ⟨repository, ⟨signer.workflowPath, by simp [signer]⟩, .any⟩

/-- The log's key may sign for its origin. -/
def originPolicy : CheckpointOriginPolicy :=
  ⟨[⟨logKeyId, [origin], by simp, by
    simpa [IsCheckpointOrigin] using ⟨origin_ne, by decide, origin_lf⟩⟩], by simp⟩

/-- The verifier with this trust and these policies. -/
def verifier : Verifier externals where
  trustStore := trustStore
  githubPolicy := githubPolicy
  checkpointOriginPolicy := originPolicy
  signer_unpinned := ⟨rfl, rfl⟩
  keys_known := List.forall_mem_singleton.mpr ⟨log, List.mem_singleton_self _, sha256_logSpki⟩

/-- The bundle with the entry of a publication. -/
def bundleOf (p : Publication) : Bundle :=
  ⟨bundleMediaType, ⟨⟨leafDer⟩,
    [p.tlogEntry externals (externals.sha256 log.publicKey.rawBytes) canonicalizedBody], ⟨[]⟩⟩,
    envelope⟩

/-- The bundle that goes with the sample. -/
def bundle : Bundle := bundleOf publication

/-- The leaf's window lies in the one of the trust roots. -/
theorem withinValidFor_window {t : ℤ} (h : WithinCertificate leaf t) : withinValidFor t window := by
  have hstart : (1704067200 : ℤ) ≤ t := h.1
  refine ⟨?_, by simp [window]⟩
  have hle : (1672531200 : ℤ) ≤ 1704067200 := by decide
  exact hle.trans hstart

/-- The leaf's window lies in its authority's. -/
theorem withinCertificate_ca {t : ℤ} (h : WithinCertificate leaf t) : WithinCertificate ca t := by
  have hstart : (1704067200 : ℤ) ≤ t := h.1
  have hend : t ≤ 1704067800 := h.2
  have hlower : unixSeconds ca.tbsCertificate.notBefore = 1672531200 := by decide
  have hupper : unixSeconds ca.tbsCertificate.notAfter = 1988150400 := by decide
  constructor <;> omega

/-- The validated leaf. -/
def validated : ValidatedLeaf := ⟨leaf, spki, spki, 1⟩

/-- What the leaf claims. -/
def claims : FulcioClaims where
  sanUri := some sanUri
  issuer := some expectedIssuer
  buildSignerUri := none
  buildSignerDigest := none
  runnerEnvironment := none
  sourceRepositoryUri := some repositoryUri
  sourceRepositoryDigest := none
  sourceRepositoryRef := some sourceRef
  sourceRepositoryId := none
  sourceRepositoryOwnerUri := none
  sourceRepositoryOwnerId := none
  buildConfigUri := none
  buildConfigDigest := none
  buildTrigger := none
  runInvocationUri := none

/-- The head of the first two leaves. -/
theorem mth_earlier : mth externals.sha256 [earlierBody, canonicalizedBody] = earlierRoot := by
  have hearlier : externals.sha256 (leafPreimage earlierBody) = earlierLeaf :=
    sha256_short (by decide)
  have hroot : externals.sha256 (nodePreimage earlierLeaf bodyLeaf) = earlierRoot :=
    sha256_short (by decide)
  simp [mth, splitPoint_two, leafHash, nodeHash, hearlier, sha256_bodyLeaf, hroot]

/-- The head of all three. -/
theorem mth_publication : mth externals.sha256 publication.leaves = rootHash := by
  have hsplit : splitPoint 3 = 2 := by decide
  have hlater : externals.sha256 (leafPreimage laterBody) = laterLeaf := sha256_short (by decide)
  have hroot : externals.sha256 (nodePreimage earlierRoot laterLeaf) = rootHash :=
    sha256_short (by decide)
  rw [publication, mth]
  simp [hsplit, mth_earlier, mth, leafHash, nodeHash, hlater, hroot]

/-- What is asked of the log, with its digests and keys looked up. -/
theorem honest_of {p : Publication} (hleaf : p.leaves[p.index.toNat]? = some canonicalizedBody)
    (hsize : p.note.treeSize.toNat = p.leaves.length)
    (hroot : p.note.rootHash = (mth externals.sha256 p.leaves).bytes)
    (hcount : p.signatures.length ≤ 32)
    (hline : ∃ s ∈ p.signatures, s.keyHint = logHint ∧
      (logPoint, utf8 p.note.noteBody, s.signature) ∈ signatures)
    (hpromise : (logPoint, promiseMessage p.integratedTime p.logIndex, p.promise) ∈ signatures) :
    p.Honest externals log (.p256 logPoint) canonicalizedBody where
  leaf := hleaf
  size := hsize
  root := hroot
  count := hcount
  headSigned := by
    obtain ⟨line, hmem, hhint, hsigned⟩ := hline
    refine ⟨line, hmem, ?_, verifyDer_iff.mpr hsigned⟩
    show toOctets 4 ((externals.sha256 logSpki).bytes.take 4) = _
    rw [sha256_logSpki, hhint]
    exact toOctets_eq_some.mpr rfl
  promiseSigned := by
    rw [show log.publicKey.rawBytes = logSpki from rfl, sha256_logSpki]
    exact verifyDer_iff.mpr hpromise

/-- The log did its part. -/
theorem honest : publication.Honest externals log (.p256 logPoint) canonicalizedBody := by
  refine honest_of rfl rfl ?_ (by decide) ⟨noteLine, by simp [publication], rfl, ?_⟩ ?_
  · rw [mth_publication]
    rfl
  · simp [signatures, publication, noteLine]
  · simp [signatures, publication]

/-- The log's side is trusted at every time in the leaf's window. -/
theorem trusted_of {p : Publication} (horigin : p.note.origin = origin)
    (hwindow : WithinCertificate leaf p.integratedTime.toNat) :
    Trusted externals (bundleOf p) trustStore originPolicy log (.p256 logPoint) leaf p where
  selection :=
    { selected := by simp [selectLog, trustStore]
      key := fromSpkiDer_logSpki }
  origin := ⟨_, List.mem_singleton_self _, sha256_logSpki.symm, by rw [horigin]; simp⟩
  decoded := certificate_leaf
  leafKey := ⟨spki, _, rfl, fromSpkiDer_spki⟩
  logWindow := withinValidFor_window hwindow
  leafWindow := hwindow

/-! #### The certificate -/

/-- An extension that is found and decodes is the only one. -/
theorem onlyDecoded_of_find {α : Type} {decode : Bytes → Option α} {extensions : List Extension}
    {oid : Oid} {value : α} (ext : Extension)
    (hfind : findExtension extensions oid = .ok (some ext))
    (hdecode : decode ext.extnValue = some value) :
    OnlyDecoded decode extensions oid (some value) :=
  ⟨some ext, findExtension_eq_ok.mp hfind, .some hdecode⟩

/-- The leaf has the profile of a signing certificate. -/
theorem leafProfile : LeafProfile externals leaf where
  critical := by
    simp [NoUnknownCritical, extensionsSlice, leaf, embedded, leafExtensions, idCeKeyUsage,
      idCeSubjectAltName, knownLeafExtensionOids]
  basicConstraints := ⟨none, ⟨none, by
    simp [OnlyExtension, extensionsSlice, leaf, embedded, leafExtensions, idCeBasicConstraints,
      idCeKeyUsage, idCeExtKeyUsage, idCeSubjectAltName, fulcioOid, sctListOid], .none⟩, by simp⟩
  keyUsage := ⟨⟨true, false⟩, onlyDecoded_of_find ⟨idCeKeyUsage, true, keyUsageValue⟩ (by rfl)
    (table_head _ _ _), rfl⟩
  extendedKeyUsage := ⟨[idKpCodeSigning], onlyDecoded_of_find
    ⟨idCeExtKeyUsage, false, extKeyUsageValue⟩ (by rfl) (table_head _ _ _),
    List.mem_singleton_self _⟩

/-- The authority has the profile of an issuer. -/
theorem caProfile : CaProfile externals ca 0 where
  critical := by
    simp [NoUnknownCritical, extensionsSlice, ca, caExtensions, knownCaCriticalExtensionOids]
  basicConstraints := ⟨⟨true, none⟩, onlyDecoded_of_find
    ⟨idCeBasicConstraints, true, basicConstraintsValue⟩ (by rfl) (table_head _ _ _), rfl, by simp⟩
  keyUsage := ⟨⟨false, true⟩, onlyDecoded_of_find ⟨idCeKeyUsage, true, caKeyUsageValue⟩ (by rfl)
    ((table_tail _ _ (by decide)).trans (table_head _ _ _)), rfl⟩

/-- The authority anchors the leaf within its window. -/
theorem anchored {t : ℤ} (hwindow : WithinCertificate leaf t) :
    FirstAnchors externals trustStore leaf t validated := by
  refine ⟨[], authority, [], rfl, ⟨ca, [], ?_⟩, by simp⟩
  exact
    { decoded := .cons certificate_ca .nil
      caWindow := withinValidFor_window hwindow
      leafWindow := hwindow
      leafProfile := leafProfile
      path := by
        rw [pathIssued_iff, pathIssuedFrom_cons]
        refine ⟨?_, ?_⟩
        · exact
            { name := rfl
              window := withinCertificate_ca hwindow
              profile := caProfile
              signature := ⟨spki, _, leafTbs, rfl, fromSpkiDer_spki, rfl, rfl,
                verifyDer_iff.mpr (.tail _ (.head _))⟩ }
        · intro j child issuer hchild hissuer
          simp at hissuer
      leaf_eq := rfl
      leafSpki := rfl
      issuerSpki := rfl
      chainLength := rfl }

/-- The precertificate is rebuilt from the leaf. -/
theorem precertTbsDer_leaf : precertTbsDer externals leafTbs = .ok precertTbs := by
  have hsequence : externals.der.anySequence leafTbs =
      some (leafFields ++ [extensionsField embedded]) := table_head _ _ _
  have hextensions : externals.der.extensions (extensionsDer embedded) = some embedded :=
    table_head _ _ _
  have hfilter : embedded.filter (·.extnId ≠ sctListOid) = leafExtensions := by
    simp [embedded, leafExtensions, idCeKeyUsage, idCeExtKeyUsage, idCeSubjectAltName, fulcioOid,
      sctListOid]
  unfold precertTbsDer
  rw [hsequence, okOr_some, ok_bind, List.getLast?_concat, okOr_some, ok_bind,
    ensure_of (by rfl), ok_bind, extensionsField]
  dsimp only
  rw [hextensions, okOr_some, ok_bind, hfilter, List.dropLast_concat]
  rfl

/-- The list is found in the leaf. -/
theorem extractSctListBytes_leaf :
    extractSctListBytes externals leaf.tbsCertificate = .ok (encodeSctList [sct]) := by
  have hfind : findExtension (extensionsSlice leaf.tbsCertificate) sctListOid =
      .ok (some ⟨sctListOid, false, sctListValue⟩) := by
    refine findExtension_eq_ok.mpr ⟨leafExtensions, [], rfl, rfl, ?_⟩
    simp [leafExtensions, idCeKeyUsage, idCeExtKeyUsage, idCeSubjectAltName, fulcioOid, sctListOid]
  have hoctets : externals.der.octetString sctListValue = some (encodeSctList [sct]) :=
    table_head _ _ _
  rw [extractSctListBytes, hfind, ok_bind, okOr_some, ok_bind, hoctets, okOr_some]

/-- A list with one SCT fits its prefixes if the signature is short. -/
theorem fitsPrefixes_of {signature : Bytes} (h : signature.length ≤ 100) :
    FitsPrefixes [{ sct with signature := signature }] := by
  have hitem : (encodeSct { sct with signature := signature }).length = 47 + signature.length := by
    simp [encodeSct, sct, length_toBeBytes, Octets.length_eq]
    omega
  have htotal : (encodeScts [{ sct with signature := signature }]).length =
      49 + signature.length := by
    simp [encodeScts, length_toBeBytes, hitem]
    omega
  have hextensions : sct.extensions.length < 2 ^ 16 := by decide
  refine ⟨List.forall_mem_singleton.mpr ⟨hextensions, ?_⟩, List.forall_mem_singleton.mpr ?_, ?_⟩
  · show signature.length < 2 ^ 16
    omega
  · omega
  · omega

/-- What is checked is what the CT log signed. -/
theorem digitallySignedBytes_sct {precertTbs : Bytes} (hlength : precertTbs.length ≤ 0x00FFFFFF) :
    digitallySignedBytes sct.timestampMs (externals.sha256 spki) precertTbs sct.extensions =
      .ok (sctMessage precertTbs) := by
  rw [digitallySignedBytes, sha256_spki, ensure_of hlength, ok_bind, ensure_of (by decide), ok_bind]
  rfl

/-- The SCT's time lies in the CT log's window. -/
theorem withinValidFor_sct :
    withinValidFor (sct.timestampMs.toNat / 1000 : ℕ) ctLog.publicKey.validFor := by
  decide +kernel

/-- An SCT with the sample's timestamp, under a signature the CT log made. -/
theorem sctSigned_of {precertTbs signature : Bytes} (hlength : precertTbs.length ≤ 0x00FFFFFF)
    (hsigned : (point, sctMessage precertTbs, signature) ∈ signatures) :
    SctSigned externals { sct with signature := signature } precertTbs (externals.sha256 spki)
      ctLog where
  window := withinValidFor_sct
  version := rfl
  hashAlgorithm := rfl
  signatureAlgorithm := rfl
  signed := ⟨_, _, digitallySignedBytes_sct hlength, fromSpkiDer_spki, verifyDer_iff.mpr hsigned⟩

/-- The CT log signed for the leaf. -/
theorem sctSigned : SctSigned externals sct precertTbs (externals.sha256 spki) ctLog :=
  sctSigned_of (by decide +kernel) (by simp [signatures])

/-- The CT log is found by its id. -/
theorem selectCtLog_keyId : selectCtLog externals trustStore keyId = some ctLog :=
  List.find?_cons_of_pos (decide_eq_true sha256_spki)

/-- The leaf has a signed SCT. -/
theorem hasSignedSct : HasSignedSct externals validated trustStore := by
  have hparse : parseSctList (encodeSctList [sct]) = .ok [sct] :=
    parseSctList_eq_ok.mpr ⟨fitsPrefixes_of (by decide), rfl⟩
  exact ⟨encodeSctList [sct], [sct], leafTbs, precertTbs, extractSctListBytes_leaf, hparse, rfl,
    precertTbsDer_leaf, sct, List.mem_singleton_self sct, ctLog, selectCtLog_keyId, sctSigned⟩

/-- The leaf makes no other claim. -/
theorem extractUtf8Claim_absent {n : ℕ} (h : n ∉ [8, 12, 14]) :
    extractUtf8Claim externals embedded (fulcioOid n) = .ok none := by
  have hfind : findExtension embedded (fulcioOid n) = .ok none := by
    refine findExtension_eq_ok.mpr fun ext hext heq => ?_
    simp only [embedded, leafExtensions, List.cons_append, List.nil_append, List.mem_cons,
      List.not_mem_nil, or_false] at hext
    rcases hext with rfl | rfl | rfl | rfl | rfl | rfl | rfl <;>
      simp [fulcioOid, idCeKeyUsage, idCeExtKeyUsage, idCeSubjectAltName, sctListOid] at heq <;>
      simp [← heq] at h
  rw [extractUtf8Claim, hfind, ok_bind]
  rfl

/-- A claim whose extension is found and decodes is read. -/
theorem extractUtf8Claim_present {n : ℕ} {claim : Str}
    (hfind : findExtension embedded (fulcioOid n) =
      .ok (some ⟨fulcioOid n, false, claimValue claim⟩))
    (hdecode : externals.der.utf8String (claimValue claim) = some claim) :
    extractUtf8Claim externals embedded (fulcioOid n) = .ok (some claim) := by
  rw [extractUtf8Claim, hfind, ok_bind]
  dsimp only
  rw [hdecode, okOr_some, ok_bind]
  rfl

/-- The three claims are told apart by how they end. -/
theorem getLast?_claimValue {claim : Str} (h : utf8 claim ≠ []) :
    (claimValue claim).getLast? = (utf8 claim).getLast? := by
  obtain ⟨front, hfront⟩ := suffix_tlv 0x0C (utf8 claim)
  rw [claimValue, ← hfront, List.getLast?_append_of_ne_nil _ h]

/-- The three claims are decoded. -/
theorem utf8String_claims :
    externals.der.utf8String (claimValue expectedIssuer) = some expectedIssuer ∧
    externals.der.utf8String (claimValue repositoryUri) = some repositoryUri ∧
    externals.der.utf8String (claimValue sourceRef) = some sourceRef := by
  have hissuer : (claimValue expectedIssuer).getLast? = some 109 := by
    rw [getLast?_claimValue (by decide +kernel)]
    decide +kernel
  have hrepository : (claimValue repositoryUri).getLast? = some 114 := by
    rw [getLast?_claimValue (by decide +kernel)]
    decide +kernel
  have href : (claimValue sourceRef).getLast? = some 110 := by
    rw [getLast?_claimValue (by decide +kernel)]
    decide +kernel
  have hne {a b : Bytes} {x y : UInt8} (ha : a.getLast? = some x) (hb : b.getLast? = some y)
      (h : x ≠ y) : a ≠ b := by
    rintro rfl
    exact h (Option.some.inj (ha.symm.trans hb))
  refine ⟨table_head _ _ _, ?_, ?_⟩
  · exact (table_tail _ _ (hne hrepository hissuer (by decide))).trans (table_head _ _ _)
  · exact (table_tail _ _ (hne href hissuer (by decide))).trans
      ((table_tail _ _ (hne href hrepository (by decide))).trans (table_head _ _ _))

/-- The workflow's URI is read. -/
theorem extractSanUri_leaf : extractSanUri externals embedded = .ok (some sanUri) := by
  have hfind : findExtension embedded idCeSubjectAltName =
      .ok (some ⟨idCeSubjectAltName, true, sanValue⟩) := by rfl
  have hnames : externals.der.subjectAltName sanValue = some [.uniformResourceIdentifier sanUri] :=
    table_head _ _ _
  rw [extractSanUri, hfind, ok_bind]
  dsimp only
  rw [hnames, okOr_some, ok_bind]
  rfl

/-- All claims of the leaf are read. -/
theorem extractClaims_leaf : extractClaims externals validated = .ok claims := by
  obtain ⟨hissuer, hrepository, href⟩ := utf8String_claims
  have hslice : extensionsSlice validated.leaf.tbsCertificate = embedded := rfl
  rw [extractClaims, hslice]
  simp only [extractSanUri_leaf, ok_bind,
    extractUtf8Claim_present (n := 8) (by rfl) hissuer,
    extractUtf8Claim_present (n := 12) (by rfl) hrepository,
    extractUtf8Claim_present (n := 14) (by rfl) href,
    extractUtf8Claim_absent (n := 9) (by decide), extractUtf8Claim_absent (n := 10) (by decide),
    extractUtf8Claim_absent (n := 11) (by decide), extractUtf8Claim_absent (n := 13) (by decide),
    extractUtf8Claim_absent (n := 15) (by decide), extractUtf8Claim_absent (n := 16) (by decide),
    extractUtf8Claim_absent (n := 17) (by decide), extractUtf8Claim_absent (n := 18) (by decide),
    extractUtf8Claim_absent (n := 19) (by decide), extractUtf8Claim_absent (n := 20) (by decide),
    extractUtf8Claim_absent (n := 21) (by decide)]
  rfl

/-- The workflow is well formed. -/
theorem wellFormed_signer : signer.WellFormed where
  owner_ne := by simp [signer]
  owner_slash := by simp [signer]
  owner_at := by simp [signer]
  name_ne := by simp [signer]
  name_slash := by simp [signer]
  name_at := by simp [signer]
  path_prefix := List.prefix_append _ _
  path_at := by
    have hprefix : '@' ∉ workflowPathPrefix := by decide +kernel
    simp [signer, hprefix]
  ref_ne := by simp [signer, sourceRef]
  ref_at := by simp [signer, sourceRef]

/-- The claims meet the policy. -/
theorem satisfies : Satisfies githubPolicy claims ['o'] ['r'] sourceRef signer where
  issuer := rfl
  sourceUri := ⟨repositoryUri, rfl, rfl, by simp, by simp, by simp, by simp⟩
  sourceRepository := ⟨by decide, by decide⟩
  sourceOwnerId := by simp [SatisfiesId, githubPolicy, repository]
  sourceRepositoryId := by simp [SatisfiesId, githubPolicy, repository]
  sourceRef := rfl
  sourceRefPolicy := rfl
  sourceCommit := by simp [SatisfiesCommit, githubPolicy]
  signerUri := ⟨sanUri, rfl, isSignerUri_iff.mpr ⟨wellFormed_signer, rfl⟩⟩
  signerRepository := ⟨by decide, by decide⟩
  signerPath := rfl
  signerRevision := trivial

/-- The leaf certifies the workflow within its window. -/
theorem certified_of {t : ℤ} (hwindow : WithinCertificate leaf t) :
    Certified externals verifier leaf t validated claims ['o'] ['r'] sourceRef signer where
  anchored := anchored hwindow
  sct := hasSignedSct
  extracted := extractClaims_leaf
  satisfies := satisfies

/-- The parsed statement. -/
def statement : Statement := ⟨[⟨some ['a'], some subject⟩], supportedPredicateType, .object []⟩

/-- The statement repeats no key. -/
theorem writable_raw : raw.Writable where
  digests := by simp [raw]
  predicate := strict_object.mpr ⟨List.nodup_nil, by simp⟩

/-- The signer did their part. -/
theorem signed : Signed externals envelope raw statement validated where
  payloadType := rfl
  reads := payloadReads_toValue writable_raw readJson_payload (by decide +kernel)
    (by decide +kernel)
  read :=
    { type_ := rfl
      count := by decide
      subjects := .cons ⟨by simp, rfl, .some rfl⟩ .nil
      predicateType := rfl
      predicate := rfl }
  predicateType := rfl
  signature := ⟨_, fromSpkiDer_spki, verifyDer_iff.mpr (by simp [signatures, envelope])⟩

/-- The report on the bundle of a publication. -/
def reportOf (p : Publication) : VerificationReport where
  subject := ⟨subject, some ['a']⟩
  signer := ⟨expectedIssuer, ownerSlashName ['o'] ['r'], sourceRef, ownerSlashName ['o'] ['r'],
    signer.workflowPath⟩
  transparency := ⟨p.logIndex, p.integratedTime⟩
  statement := ⟨supportedPredicateType, .object []⟩
  trust := ⟨[], []⟩

/-- The report on the sample's bundle. -/
def report : VerificationReport := reportOf publication

/-- Every honest publication of the body under the log's name is accepted. -/
theorem accepted_of {p : Publication}
    (hhonest : p.Honest externals log (.p256 logPoint) canonicalizedBody)
    (horigin : p.note.origin = origin) (hwindow : WithinCertificate leaf p.integratedTime.toNat) :
    verifier.verifyDigest subject (bundleOf p) = .ok (reportOf p) :=
  Verifier.verifyDigest_eq_ok.mpr ⟨statement, _, _, leaf, claims,
    accepted_issued signed (List.nil_append _).symm ⟨_, rfl, rfl⟩ (by simp) rfl
      parseTlogEntryBody_canonicalizedBody hhonest (trusted_of horigin hwindow)
      (certified_of hwindow), ['o'], ['r'], sourceRef, signer, satisfies, rfl⟩

/-- The promised time lies in the leaf's window. -/
theorem withinCertificate_publication :
    WithinCertificate leaf publication.integratedTime.toNat := ⟨by decide, by decide⟩

/-- The bundle's entry is the published one. -/
theorem entries_bundle : bundle.verificationMaterial.tlogEntries =
    [publication.tlogEntry externals (externals.sha256 log.publicKey.rawBytes)
      canonicalizedBody] := rfl

/-- The log is trusted at the promised time. -/
theorem trusted : Trusted externals bundle trustStore originPolicy log (.p256 logPoint) leaf
    publication :=
  trusted_of rfl withinCertificate_publication

/-- The leaf is certified at the promised time. -/
theorem certified : Certified externals verifier leaf publication.integratedTime.toNat validated
    claims ['o'] ['r'] sourceRef signer :=
  certified_of withinCertificate_publication

/-- The sample is accepted. -/
theorem accepted : verifier.verifyDigest subject bundle = .ok report :=
  accepted_of honest rfl withinCertificate_publication

/-! #### An embedded list -/

/-- The SCT handed out for the small precertificate. -/
def smallSct : ParsedSct := { sct with signature := smallSignature }

/-- The list with this one SCT. -/
def smallSctListValue : Bytes := tlv 0x04 (encodeSctList [smallSct])

/-- The digests and keys of the sample, with a reader of canonical DER. -/
def derExternals : Externals :=
  { externals with
    der := { Sample.der with
      octetString := table [(smallSctListValue, encodeSctList [smallSct])] } }

/-- The leaf's other extension. -/
def keyUsageExtension : Extension := ⟨idCeKeyUsage, true, keyUsageValue⟩

/-- The small precertificate with the list as its last extension. -/
def smallLeaf : X509Certificate :=
  { leaf with
    tbsCertificate := { leaf.tbsCertificate with
      extensions := some [keyUsageExtension, ⟨sctListOid, false, smallSctListValue⟩]
      der := some (tbsDer [⟨0x02, [2]⟩]
        [keyUsageExtension, ⟨sctListOid, false, smallSctListValue⟩]) } }

/-- The reader is one of canonical DER. -/
theorem canonicalDer : CanonicalDer derExternals.der Sample.scope :=
  ⟨Sample.canonicalDer.anySequence, Sample.canonicalDer.anySequenceToDer,
    Sample.canonicalDer.anyNew, Sample.canonicalDer.extensions,
    Sample.canonicalDer.extensionsToDer⟩

/-- The leaf is the small precertificate with the list put in. -/
theorem embedsScts : EmbedsScts derExternals Sample.scope smallLeaf [⟨0x02, [2]⟩]
    [keyUsageExtension] 1 [smallSct] smallSctListValue where
  place := by simp
  others := by simp [keyUsageExtension, idCeKeyUsage, sctListOid]
  extensions_eq := rfl
  der_eq := rfl
  octets := table_head _ _ _
  fits := fitsPrefixes_of (by decide)
  represented :=
    { tags := fun _ _ => trivial
      extensionsTag := trivial
      oids := by simp [Sample.scope, Sample.knownOids, keyUsageExtension]
      length := by decide +kernel }

/-- The CT log did sign for the small precertificate. -/
theorem smallSctSigned : SctSigned derExternals smallSct smallPrecert
    (derExternals.sha256 spki) ctLog := by
  have hsct : SctSigned externals smallSct smallPrecert (externals.sha256 spki) ctLog :=
    sctSigned_of (by decide +kernel) (by simp [signatures])
  obtain ⟨hwindow, hversion, hhash, hsignature, hsigned⟩ := hsct
  exact ⟨hwindow, hversion, hhash, hsignature, hsigned⟩

end Specimen

/-- The entry of the sample is accepted. -/
theorem verifyTlogEntry_specimen :
    verifyTlogEntry Specimen.externals Specimen.bundle Specimen.trustStore Specimen.originPolicy =
      .ok ⟨1704067205, 7⟩ :=
  verifyTlogEntry_published Specimen.entries_bundle
    Specimen.parseTlogEntryBody_canonicalizedBody Specimen.honest Specimen.trusted

/-- The small leaf is accepted, for the one SCT that was put in it. -/
theorem verifyEmbeddedScts_specimen :
    verifyEmbeddedScts Specimen.derExternals ⟨Specimen.smallLeaf, [], Specimen.spki, 1⟩
      Specimen.trustStore = .ok () :=
  (verifyEmbeddedScts_issued Specimen.canonicalDer Specimen.embedsScts rfl
    Specimen.trustStore).mpr ⟨_, List.mem_singleton_self _, Specimen.ctLog,
      Specimen.selectCtLog_keyId, Specimen.smallSctSigned⟩

/-- The sample is accepted, and its report names the artefact, the workflow and the source. -/
theorem Verifier.verifyDigest_specimen :
    Specimen.verifier.verifyDigest Specimen.subject Specimen.bundle = .ok Specimen.report :=
  Verifier.verifyDigest_issued Specimen.signed (List.nil_append _).symm ⟨_, rfl, rfl⟩ (by simp)
    Specimen.entries_bundle Specimen.parseTlogEntryBody_canonicalizedBody Specimen.honest
    Specimen.trusted Specimen.certified

end AttestationVerify
