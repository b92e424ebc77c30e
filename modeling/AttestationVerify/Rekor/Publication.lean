import AttestationVerify.Rekor.Note
import AttestationVerify.Rekor.Verify

namespace AttestationVerify

open Wire Wire.Json Wire.Serde Wire.Rfc6962

/-!
# A published entry

What a log writes about an envelope it took in, and what the five checks make of it.

* `entryDocument` — the body stored for an envelope, `parseTlogEntryBody_entryDocument` its parse;
* `Publication` — a leaf of a tree with the promise and the tree head the log signed for it, and
  `Publication.tlogEntry` the bundle's entry made of them;
* `Publication.Honest` — the log did store the body there, and did sign;
* `verifyTlogEntry_published` — what an honest log published is accepted, for every spelling of the
  body, every tree, every place in it and every note written over its root.
-/

/-! ### The stored body -/

/-- What is stored of an envelope whose signer's certificate is `verifierText`. -/
def entryDocument (X : Externals) (envelope : DsseEnvelope) (verifierText : Str) : Value :=
  storedDocument (computeEnvelopeHash X envelope) (X.sha256 envelope.payload)
    envelope.signature.sig verifierText

/-- The body of an envelope signed with the key of `leafDer`. -/
def entryBody (X : Externals) (envelope : DsseEnvelope) (leafDer : Bytes) : TlogEntryBody :=
  storedBody (computeEnvelopeHash X envelope) (X.sha256 envelope.payload) envelope.signature.sig
    leafDer

/-- A text that reads as the document is one spelling of the body. -/
theorem parseTlogEntryBody_entryDocument {X : Externals} {envelope : DsseEnvelope}
    {verifierText : Str} {leafDer canonicalizedBody : Bytes}
    (hpem : PemBlock "CERTIFICATE" leafDer verifierText)
    (hread : X.readJson canonicalizedBody =
      ⟨(entryDocument X envelope verifierText).toTree, true⟩) :
    parseTlogEntryBody X canonicalizedBody = .ok (entryBody X envelope leafDer) :=
  parseTlogEntryBody_of_stored hpem hread

/-! ### What the log gives out -/

/-- A place in a tree of leaves, with the promise made for it and a note over the tree. -/
structure Publication where
  leaves : List Bytes
  index : UInt64
  /-- The place and time of the promise, which the tree does not record. -/
  logIndex : UInt64
  integratedTime : UInt64
  promise : Bytes
  note : CheckpointNote
  signatures : List WritableSignature

namespace Publication

/-- The entry's inclusion proof, as the log answers it. -/
def proof (X : Externals) (p : Publication) : InclusionProof where
  logIndex := p.index
  rootHash := (mth X.sha256 p.leaves).bytes
  treeSize := p.note.treeSize
  hashes := (auditPath X.sha256 p.index.toNat p.leaves).map Octets.bytes
  checkpoint := ⟨p.note.render (renderSignatureLines p.signatures)⟩

/-- The entry as a client puts it in a bundle. -/
def tlogEntry (X : Externals) (logKeyId : Octets 32) (canonicalizedBody : Bytes)
    (p : Publication) : TlogEntry where
  logIndex := p.logIndex
  logIdKeyId := logKeyId.bytes
  kind := tlogEntryKind
  version := tlogEntryApiVersion
  integratedTime := p.integratedTime
  inclusionPromise := some ⟨p.promise⟩
  inclusionProof := some (p.proof X)
  canonicalizedBody := canonicalizedBody

/-- The checkpoint its note is parsed to. -/
def checkpoint (p : Publication) : ParsedCheckpoint :=
  ⟨p.note.origin, p.note.treeSize, p.note.rootHash, p.note.noteBody,
    p.signatures.map (·.toCheckpointSignature)⟩

/-- The body is the leaf at that place, the note is over the leaves, and `logKey` signed both the
    promise and the note, on a line with the log's key hint among at most 32. -/
structure Honest (X : Externals) (log : TransparencyLog) (logKey : EcdsaVerifyingKey)
    (canonicalizedBody : Bytes) (p : Publication) : Prop where
  leaf : p.leaves[p.index.toNat]? = some canonicalizedBody
  size : p.note.treeSize.toNat = p.leaves.length
  root : p.note.rootHash = (mth X.sha256 p.leaves).bytes
  count : p.signatures.length ≤ 32
  headSigned : ∃ s ∈ p.signatures, checkpointKeyHint X log = some s.keyHint ∧
    logKey.verifyDer X (utf8 p.note.noteBody) s.signature = true
  promiseSigned : logKey.verifyDer X (setSignedBytes canonicalizedBody p.integratedTime
    (X.sha256 log.publicKey.rawBytes).bytes p.logIndex) p.promise = true

end Publication

section Published

variable {X : Externals} {log : TransparencyLog} {logKey : EcdsaVerifyingKey}
  {canonicalizedBody : Bytes} {p : Publication}

/-- The audit path leads from the body to the root. -/
theorem includesBody_proof (h : p.Honest X log logKey canonicalizedBody) :
    IncludesBody X canonicalizedBody (p.proof X) (auditPath X.sha256 p.index.toNat p.leaves)
      (mth X.sha256 p.leaves) where
  rootHash_eq := rfl
  hashes_eq := rfl
  recomputed := by
    obtain ⟨hi, -⟩ := List.getElem?_eq_some_iff.mp h.leaf
    have hsize := h.size
    have hlt : ¬ p.index ≥ p.note.treeSize := by
      intro hge
      have hle := UInt64.le_iff_toNat_le.mp hge
      omega
    show recomputeRoot X (rfc6962LeafHash X canonicalizedBody) p.index p.note.treeSize _ = _
    rw [recomputeRoot, if_neg hlt, hsize, auditPath_eq_path, mth_eq_root]
    apply walkUp_path
    · rw [List.length_map]
      omega
    · rw [List.getElem?_map, h.leaf]
      rfl

/-- The note is parsed as written, and the log's line is among its lines. -/
theorem checkpointSigned_proof (h : p.Honest X log logKey canonicalizedBody) :
    CheckpointSigned X (p.proof X).checkpoint.envelope (p.proof X).treeSize (p.proof X).rootHash
      log logKey p.checkpoint where
  parsed := by
    obtain ⟨s, hs, -⟩ := h.headSigned
    show parseCheckpoint (p.note.render (renderSignatureLines p.signatures)) = _
    rw [parseCheckpoint_render, parseSignatureLines_render (List.ne_nil_of_mem hs) h.count]
    rfl
  treeSize_eq := rfl
  rootHash_eq := h.root
  signed := by
    obtain ⟨s, hs, hhint, hverify⟩ := h.headSigned
    exact ⟨s.toCheckpointSignature, List.mem_map_of_mem hs, hhint, hverify⟩

variable {bundle : Bundle} {trustStore : TrustStore} {policy : CheckpointOriginPolicy}
  {leaf : X509Certificate}

/-- The caller's side: the log is the one the trust store selects, its origin is allowed, and the
    promised time lies in the window of the log's key and of the bundle's own leaf. -/
structure Trusted (X : Externals) (bundle : Bundle) (trustStore : TrustStore)
    (policy : CheckpointOriginPolicy) (log : TransparencyLog) (logKey : EcdsaVerifyingKey)
    (leaf : X509Certificate) (p : Publication) : Prop where
  selection : SelectedLog X trustStore (X.sha256 log.publicKey.rawBytes).bytes log logKey
  origin : ∃ binding ∈ policy.bindings, binding.keyId = X.sha256 log.publicKey.rawBytes ∧
    p.note.origin ∈ binding.origins
  decoded : X.der.certificate bundle.verificationMaterial.certificate.rawBytes = some leaf
  leafKey : ∃ spkiDer key, leaf.tbsCertificate.spkiDer = some spkiDer ∧
    EcdsaVerifyingKey.fromSpkiDer X spkiDer = .ok key
  logWindow : withinValidFor p.integratedTime.toNat log.publicKey.validFor
  leafWindow : WithinCertificate leaf p.integratedTime.toNat

/-- What an honest log published passes every check of the entry. -/
theorem entryVerified_published
    (hentries : bundle.verificationMaterial.tlogEntries =
      [p.tlogEntry X (X.sha256 log.publicKey.rawBytes) canonicalizedBody])
    (hparsed : parseTlogEntryBody X canonicalizedBody =
      .ok (entryBody X bundle.dsseEnvelope bundle.verificationMaterial.certificate.rawBytes))
    (hhonest : p.Honest X log logKey canonicalizedBody)
    (htrusted : Trusted X bundle trustStore policy log logKey leaf p) :
    EntryVerified X bundle trustStore policy
      (p.tlogEntry X (X.sha256 log.publicKey.rawBytes) canonicalizedBody)
      (entryBody X bundle.dsseEnvelope bundle.verificationMaterial.certificate.rawBytes) log logKey
      (p.proof X) p.checkpoint leaf where
  entries := hentries
  parsed := hparsed
  bound := ⟨rfl, rfl, rfl, rfl, rfl, rfl⟩
  selection := htrusted.selection
  promised := ⟨⟨p.promise⟩, rfl, hhonest.promiseSigned⟩
  proof_eq := rfl
  included := ⟨_, _, includesBody_proof hhonest⟩
  covered := checkpointSigned_proof hhonest
  origin := htrusted.origin
  decoded := htrusted.decoded
  leafKey := htrusted.leafKey
  logWindow := htrusted.logWindow
  leafWindow := htrusted.leafWindow

/-- **What an honest log published is accepted**: a body that says what is in the bundle's envelope
    and leaf, in any spelling, at any place of any tree, with the promise and a note over the root,
    passes the five checks and is reported with the promised time and index. -/
theorem verifyTlogEntry_published
    (hentries : bundle.verificationMaterial.tlogEntries =
      [p.tlogEntry X (X.sha256 log.publicKey.rawBytes) canonicalizedBody])
    (hparsed : parseTlogEntryBody X canonicalizedBody =
      .ok (entryBody X bundle.dsseEnvelope bundle.verificationMaterial.certificate.rawBytes))
    (hhonest : p.Honest X log logKey canonicalizedBody)
    (htrusted : Trusted X bundle trustStore policy log logKey leaf p) :
    verifyTlogEntry X bundle trustStore policy = .ok ⟨p.integratedTime, p.logIndex⟩ :=
  verifyTlogEntry_eq_ok.mpr ⟨_, _, _, _, _, _, _,
    entryVerified_published hentries hparsed hhonest htrusted, rfl⟩

end Published

end AttestationVerify
