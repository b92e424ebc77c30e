import AttestationVerify.PolicyMatch
import AttestationVerify.Rekor.Verify
import AttestationVerify.Sct

namespace AttestationVerify

open Wire Wire.Json

/-!
# Verifiers

`verifier.rs`: the whole chain, its builder and its report.

* `Verifier` — trust store and policies that passed the builder's checks;
* `Verifier.verifyDigest` — the eleven steps;
* `Verifier.verifyDigest_eq` — the identity policy apart from the steps before it;
* `Accepted` — what they establish together, over one statement, entry, log, leaf and time;
* `Verifier.verifyDigest_spec` — the chain accepts exactly that.
-/

/-- SLSA provenance v1. -/
def supportedPredicateType : Str := "https://slsa.dev/provenance/v1".toList

/-- The in-toto payload type. -/
def supportedDssePayloadType : Str := "application/vnd.in-toto+json".toList

/-- The builder's two checks are fields: no other verifier can be built. -/
structure Verifier (X : Externals) where
  trustStore : TrustStore
  githubPolicy : GithubPolicy
  checkpointOriginPolicy : CheckpointOriginPolicy
  signer_unpinned : githubPolicy.signer.repository.ownerId = none ∧
    githubPolicy.signer.repository.repositoryId = none
  keys_known : ∀ binding ∈ checkpointOriginPolicy.bindings, ∃ log ∈ trustStore.tlogs,
    X.sha256 log.publicKey.rawBytes = binding.keyId

/-- `VerifierBuilder`: the three settings, each of them required. -/
structure VerifierBuilder where
  trustStore : Option TrustStore
  githubPolicy : Option GithubPolicy
  checkpointOriginPolicy : Option CheckpointOriginPolicy

/-- The setter `trust_store`. -/
def VerifierBuilder.setTrustStore (builder : VerifierBuilder) (trustStore : TrustStore) :
    VerifierBuilder := { builder with trustStore := some trustStore }

/-- The setter `github_policy`. -/
def VerifierBuilder.setGithubPolicy (builder : VerifierBuilder) (githubPolicy : GithubPolicy) :
    VerifierBuilder := { builder with githubPolicy := some githubPolicy }

/-- The setter `checkpoint_origin_policy`. -/
def VerifierBuilder.setCheckpointOriginPolicy (builder : VerifierBuilder)
    (checkpointOriginPolicy : CheckpointOriginPolicy) : VerifierBuilder :=
  { builder with checkpointOriginPolicy := some checkpointOriginPolicy }

/-- `build`: all settings are there, no signer id is pinned, and each bound key is a log's. -/
def VerifierBuilder.build (X : Externals) (builder : VerifierBuilder) :
    Except Error (Verifier X) := do
  let trustStore ← okOr builder.trustStore (policyError "trust_store is required")
  let githubPolicy ← okOr builder.githubPolicy (policyError "github_policy is required")
  let checkpointOriginPolicy ←
    okOr builder.checkpointOriginPolicy (policyError "checkpoint_origin_policy is required")
  match hpins : rejectSignerIdPins githubPolicy.signer with
  | .error e => throw e
  | .ok () =>
    if hkeys : ∀ binding ∈ checkpointOriginPolicy.bindings, ∃ log ∈ trustStore.tlogs,
        X.sha256 log.publicKey.rawBytes = binding.keyId then
      pure ⟨trustStore, githubPolicy, checkpointOriginPolicy, ensure_eq_ok.mp hpins, hkeys⟩
    else
      throw (policyError "checkpoint origin policy references unknown trust-store log key")

/-! ### The report -/

/-- The artifact's digest and the name the statement gives it. -/
structure VerifiedSubject where
  digest : Subject
  name : Option Str

/-- The identity that the certificate claims. -/
structure VerifiedCertificateIdentity where
  issuer : Str
  sourceRepository : Str
  sourceRef : Str
  signerRepository : Str
  signerWorkflowPath : Str

/-- Where and when the log recorded the signature. -/
structure VerifiedTransparency where
  logIndex : UInt64
  integratedTime : UInt64

/-- What was signed about the subject. -/
structure VerifiedSignedStatement where
  predicateType : Str
  predicate : Value

/-- Which trust material was used. -/
structure TrustSnapshotInfo where
  fingerprint : Str
  source : Str

/-- What a caller learns from an accepted bundle. -/
structure VerificationReport where
  subject : VerifiedSubject
  signer : VerifiedCertificateIdentity
  transparency : VerifiedTransparency
  statement : VerifiedSignedStatement
  trust : TrustSnapshotInfo

/-! ### The chain -/

/-- `i64::try_from(integrated_time).unwrap_or(i64::MAX)`. -/
def authenticatedTime (integratedTime : UInt64) : ℤ := min (integratedTime.toNat : ℤ) (2 ^ 63 - 1)

/-- `verify_digest`, its eleven steps in the source's order. -/
def Verifier.verifyDigest {X : Externals} (self : Verifier X) (subject : Subject)
    (bundle : Bundle) : Except Error VerificationReport := do
  -- 1. payload type
  ensure (bundle.dsseEnvelope.payloadType = supportedDssePayloadType)
    (.unsupported (.dssePayloadType bundle.dsseEnvelope.payloadType))
  -- 2. statement
  let statement ← bundle.statement X
  -- 3. predicate type
  ensure (statement.predicateType = supportedPredicateType)
    (.unsupported (.predicateType statement.predicateType))
  -- 4. subject
  let matched ← okOr (statement.findSubject subject) (.contentBinding .subjectNotFound)
  -- 5. transparency log
  let verifiedTimestamp ← verifyTlogEntry X bundle self.trustStore self.checkpointOriginPolicy
  let authenticatedTime := authenticatedTime verifiedTimestamp.integratedTime
  -- 6. X.509 chain
  let leafDer := bundle.verificationMaterial.certificate.rawBytes
  let validatedLeaf ← validateChain X leafDer self.trustStore authenticatedTime
  -- 7. DSSE signature
  let leafKey ← EcdsaVerifyingKey.fromSpkiDer X validatedLeaf.leafSpkiDer
  verifyEnvelope X bundle.dsseEnvelope leafKey
  -- 8. SCTs
  verifyEmbeddedScts X validatedLeaf self.trustStore
  -- 9. identity claims
  let claims ← extractClaims X validatedLeaf
  -- 10. identity policy
  let matchedIdentity ← matchPolicy claims self.githubPolicy
  -- 11. report
  pure
    { subject := ⟨subject, matched.name⟩
      signer := ⟨matchedIdentity.issuer, matchedIdentity.sourceRepository,
        matchedIdentity.sourceRef, matchedIdentity.signerRepository,
        matchedIdentity.signerWorkflowPath⟩
      transparency := ⟨verifiedTimestamp.logIndex, verifiedTimestamp.integratedTime⟩
      statement := ⟨statement.predicateType, statement.predicate⟩
      trust := ⟨self.trustStore.fingerprint, self.trustStore.source⟩ }

/-- `verify_bytes`: the digest is computed first. -/
def Verifier.verifyBytes {X : Externals} (self : Verifier X) (bytes : Bytes) (bundle : Bundle) :
    Except Error VerificationReport :=
  self.verifyDigest (Subject.sha256Of X bytes) bundle

/-! ### What the chain accepts -/

section Accepts

variable {X : Externals}

/-- The envelope's payload is a provenance statement, typed as such, about the subject. -/
structure StatementNames (X : Externals) (envelope : DsseEnvelope) (subject : Subject)
    (statement : Statement) (matched : StatementSubject) : Prop where
  payloadType : envelope.payloadType = supportedDssePayloadType
  parsed : Statement.fromPayload X envelope.payload = .ok statement
  predicateType : statement.predicateType = supportedPredicateType
  subject : statement.FirstNames subject matched

/-- The first authority of the trust store that anchors the leaf does so with `validated`. -/
def FirstAnchors (X : Externals) (trustStore : TrustStore) (leaf : X509Certificate) (t : ℤ)
    (validated : ValidatedLeaf) : Prop :=
  ∃ before ca after, trustStore.certificateAuthorities = before ++ ca :: after ∧
    Anchors X leaf ca t validated ∧ ∀ earlier ∈ before, ∀ other, ¬ Anchors X leaf earlier t other

/-- The steps after the transparency log, all at its time: the entry's leaf is anchored, signed the
    envelope, has a signed SCT, and its claims. -/
structure LeafAuthenticated (X : Externals) (trustStore : TrustStore) (envelope : DsseEnvelope)
    (leaf : X509Certificate) (t : ℤ) (validated : ValidatedLeaf) (claims : FulcioClaims) :
    Prop where
  anchored : FirstAnchors X trustStore leaf t validated
  signed : ∃ key, EcdsaVerifyingKey.fromSpkiDer X validated.leafSpkiDer = .ok key ∧
    key.verifyDer X (pae envelope.payloadType envelope.payload) envelope.signature.sig = true
  sct : HasSignedSct X validated trustStore
  claims : extractClaims X validated = .ok claims

/-- What the chain establishes of one bundle, with shared witnesses. -/
structure Accepted {X : Externals} (verifier : Verifier X) (subject : Subject) (bundle : Bundle)
    (statement : Statement) (matched : StatementSubject) (tlogEntry : TlogEntry)
    (leaf : X509Certificate) (claims : FulcioClaims) : Prop where
  statement : StatementNames X bundle.dsseEnvelope subject statement matched
  entry : ∃ body log logKey proof checkpoint, EntryVerified X bundle verifier.trustStore
    verifier.checkpointOriginPolicy tlogEntry body log logKey proof checkpoint leaf
  leaf : ∃ validated, LeafAuthenticated X verifier.trustStore bundle.dsseEnvelope leaf
    tlogEntry.integratedTime.toNat validated claims

/-- The report of an accepted bundle. -/
def VerificationReport.of {X : Externals} (verifier : Verifier X) (subject : Subject)
    (statement : Statement) (matched : StatementSubject) (tlogEntry : TlogEntry)
    (identity : MatchedIdentity) : VerificationReport where
  subject := ⟨subject, matched.name⟩
  signer := ⟨identity.issuer, identity.sourceRepository, identity.sourceRef,
    identity.signerRepository, identity.signerWorkflowPath⟩
  transparency := ⟨tlogEntry.logIndex, tlogEntry.integratedTime⟩
  statement := ⟨statement.predicateType, statement.predicate⟩
  trust := ⟨verifier.trustStore.fingerprint, verifier.trustStore.source⟩

/-- A time inside a certificate's window fits an `i64`. -/
theorem authenticatedTime_eq {leaf : X509Certificate} {integratedTime : UInt64}
    (h : WithinCertificate leaf integratedTime.toNat) :
    authenticatedTime integratedTime = integratedTime.toNat := by
  -- `not_after` is itself clamped to an `i64`
  have hle := h.2
  unfold unixSeconds at hle
  unfold authenticatedTime
  omega

/-- The envelope verifies if its signature is over the PAE. -/
theorem verifyEnvelope_eq_ok {envelope : DsseEnvelope} {leafKey : EcdsaVerifyingKey} {u : Unit} :
    verifyEnvelope X envelope leafKey = .ok u ↔
      leafKey.verifyDer X (pae envelope.payloadType envelope.payload) envelope.signature.sig =
        true := ensure_eq_ok

/-! ### Authentication, then policy -/

/-- What the steps before the identity policy hand on. -/
structure Authenticated where
  statement : Statement
  matched : StatementSubject
  timestamp : VerifiedTimestamp
  claims : FulcioClaims

/-- Steps 1 to 9. -/
def Verifier.authenticate (self : Verifier X) (subject : Subject) (bundle : Bundle) :
    Except Error Authenticated := do
  ensure (bundle.dsseEnvelope.payloadType = supportedDssePayloadType)
    (.unsupported (.dssePayloadType bundle.dsseEnvelope.payloadType))
  let statement ← bundle.statement X
  ensure (statement.predicateType = supportedPredicateType)
    (.unsupported (.predicateType statement.predicateType))
  let matched ← okOr (statement.findSubject subject) (.contentBinding .subjectNotFound)
  let timestamp ← verifyTlogEntry X bundle self.trustStore self.checkpointOriginPolicy
  let validatedLeaf ← validateChain X bundle.verificationMaterial.certificate.rawBytes
    self.trustStore (authenticatedTime timestamp.integratedTime)
  let leafKey ← EcdsaVerifyingKey.fromSpkiDer X validatedLeaf.leafSpkiDer
  verifyEnvelope X bundle.dsseEnvelope leafKey
  verifyEmbeddedScts X validatedLeaf self.trustStore
  let claims ← extractClaims X validatedLeaf
  pure ⟨statement, matched, timestamp, claims⟩

/-- The report on an authenticated bundle whose claims satisfy the policy. -/
def Verifier.report (self : Verifier X) (subject : Subject) (a : Authenticated)
    (identity : MatchedIdentity) : VerificationReport where
  subject := ⟨subject, a.matched.name⟩
  signer := ⟨identity.issuer, identity.sourceRepository, identity.sourceRef,
    identity.signerRepository, identity.signerWorkflowPath⟩
  transparency := ⟨a.timestamp.logIndex, a.timestamp.integratedTime⟩
  statement := ⟨a.statement.predicateType, a.statement.predicate⟩
  trust := ⟨self.trustStore.fingerprint, self.trustStore.source⟩

/-- The identity policy is consulted last, and on the claims of what is authenticated. -/
theorem Verifier.verifyDigest_eq (self : Verifier X) (subject : Subject) (bundle : Bundle) :
    self.verifyDigest subject bundle = (do
      let a ← self.authenticate subject bundle
      let identity ← matchPolicy a.claims self.githubPolicy
      pure (self.report subject a identity)) := by
  simp only [verifyDigest, authenticate, bind_assoc, pure_bind]
  rfl

/-- The steps before the policy succeed exactly if all of `Accepted` holds. -/
theorem Verifier.authenticate_eq_ok {verifier : Verifier X} {subject : Subject} {bundle : Bundle}
    {a : Authenticated} :
    verifier.authenticate subject bundle = .ok a ↔
      ∃ tlogEntry leaf,
        Accepted verifier subject bundle a.statement a.matched tlogEntry leaf a.claims ∧
        a.timestamp = ⟨tlogEntry.integratedTime, tlogEntry.logIndex⟩ := by
  simp only [authenticate, Bundle.statement, bind_eq_ok, ensure_eq_ok, okOr_eq_ok, pure_eq_ok,
    Except.ok.injEq, verifyTlogEntry_eq_ok, validateChain_eq_ok, verifyEnvelope_eq_ok,
    verifyEmbeddedScts_eq_ok, Statement.findSubject_eq_some_iff]
  constructor
  · intro h
    obtain ⟨_, htype, statement, hparse, _, hpredicate, matched, hsubject, timestamp,
      ⟨tlogEntry, body, log, logKey, proof, checkpoint, leaf, hentry, rfl⟩, validated,
      ⟨leaf', hleaf', hanchored⟩, key, hkey, _, hsigned, _, hsct, claims, hclaims, rfl⟩ := h
    -- the leaf the log entry is bound to and the one the chain validates are decoded once
    obtain rfl : leaf = leaf' := Option.some.inj (hentry.decoded.symm.trans hleaf')
    -- inside the leaf's window the clamp to `i64` does nothing
    rw [authenticatedTime_eq hentry.leafWindow] at hanchored
    exact ⟨tlogEntry, leaf,
      { statement := ⟨htype, hparse, hpredicate, hsubject⟩
        entry := ⟨body, log, logKey, proof, checkpoint, hentry⟩
        leaf := ⟨validated, hanchored, ⟨key, hkey, hsigned⟩, hsct, hclaims⟩ }, rfl⟩
  · intro h
    obtain ⟨statement, matched, timestamp, claims⟩ := a
    obtain ⟨tlogEntry, leaf, h, rfl⟩ := h
    obtain ⟨htype, hparse, hpredicate, hsubject⟩ := h.statement
    obtain ⟨body, log, logKey, proof, checkpoint, hentry⟩ := h.entry
    obtain ⟨validated, hanchored, ⟨key, hkey, hsigned⟩, hsct, hclaims⟩ := h.leaf
    refine ⟨(), htype, statement, hparse, (), hpredicate, matched, hsubject, _,
      ⟨tlogEntry, body, log, logKey, proof, checkpoint, leaf, hentry, rfl⟩, validated,
      ⟨leaf, hentry.decoded, ?_⟩, key, hkey, (), hsigned, (), hsct, claims, hclaims, rfl⟩
    rw [authenticatedTime_eq hentry.leafWindow]
    exact hanchored

/-- A bundle is accepted exactly if it is authentic and the policy is met. -/
theorem Verifier.verifyDigest_eq_ok {verifier : Verifier X} {subject : Subject} {bundle : Bundle}
    {report : VerificationReport} :
    verifier.verifyDigest subject bundle = .ok report ↔
      ∃ statement matched tlogEntry leaf claims,
        Accepted verifier subject bundle statement matched tlogEntry leaf claims ∧
        ∃ owner name ref signer, Satisfies verifier.githubPolicy claims owner name ref signer ∧
          report =
            .of verifier subject statement matched tlogEntry (.of owner name ref signer) := by
  simp only [verifyDigest_eq, bind_eq_ok, pure_eq_ok, Except.ok.injEq, authenticate_eq_ok,
    matchPolicy_eq_ok]
  constructor
  · intro h
    obtain ⟨⟨statement, matched, _, claims⟩, ⟨tlogEntry, leaf, h, rfl⟩, _,
      ⟨owner, name, ref, signer, hsatisfies, rfl⟩, rfl⟩ := h
    exact ⟨statement, matched, tlogEntry, leaf, claims, h, owner, name, ref, signer, hsatisfies,
      rfl⟩
  · intro h
    obtain ⟨statement, matched, tlogEntry, leaf, claims, h, owner, name, ref, signer, hsatisfies,
      rfl⟩ := h
    exact ⟨⟨statement, matched, _, claims⟩, ⟨tlogEntry, leaf, h, rfl⟩, _,
      ⟨owner, name, ref, signer, hsatisfies, rfl⟩, rfl⟩

/-- **The chain is exact.**  It accepts a bundle precisely when one statement, entry, leaf and set
    of claims pass every step and the claims satisfy the policy, and it reports those. -/
theorem Verifier.verifyDigest_spec (verifier : Verifier X) (subject : Subject) (bundle : Bundle) :
    ((∃ report, verifier.verifyDigest subject bundle = .ok report) ↔
      ∃ statement matched tlogEntry leaf claims,
        Accepted verifier subject bundle statement matched tlogEntry leaf claims ∧
        ∃ owner name ref signer, Satisfies verifier.githubPolicy claims owner name ref signer) ∧
    ∀ report, verifier.verifyDigest subject bundle = .ok report →
      ∃ statement matched tlogEntry leaf claims,
        Accepted verifier subject bundle statement matched tlogEntry leaf claims ∧
        ∃ owner name ref signer, Satisfies verifier.githubPolicy claims owner name ref signer ∧
          report = .of verifier subject statement matched tlogEntry
            (.of owner name ref signer) := by
  refine ⟨⟨?_, ?_⟩, fun report h => verifyDigest_eq_ok.mp h⟩
  · intro h
    obtain ⟨report, h⟩ := h
    obtain ⟨statement, matched, tlogEntry, leaf, claims, haccepted, owner, name, ref, signer,
      hsatisfies, -⟩ := verifyDigest_eq_ok.mp h
    exact ⟨statement, matched, tlogEntry, leaf, claims, haccepted, owner, name, ref, signer,
      hsatisfies⟩
  · intro h
    obtain ⟨statement, matched, tlogEntry, leaf, claims, haccepted, owner, name, ref, signer,
      hsatisfies⟩ := h
    exact ⟨_, verifyDigest_eq_ok.mpr ⟨statement, matched, tlogEntry, leaf, claims, haccepted, owner,
      name, ref, signer, hsatisfies, rfl⟩⟩

end Accepts

end AttestationVerify
