import AttestationVerify.Bundle
import AttestationVerify.Time

namespace AttestationVerify

open Wire Wire.Json Wire.Serde

/-!
# Trusted roots

`trust.rs`: the trusted-root document and what it is parsed into.  `TrustStore.sameContent` is the
crate's own equality, which leaves the provenance fields out.
-/

/-- The media type of a version 0.1 trusted root. -/
def trustedRootMediaType : Str :=
  "application/vnd.dev.sigstore.trustedroot+json;version=0.1".toList

/-! ### The hardened model -/

/-- `[start, end)` in unix seconds; no end means still valid. -/
structure ValidityPeriod where
  start : ℤ
  end_ : Option ℤ
  deriving DecidableEq

/-- A log's key, with the period it may be used in. -/
structure PublicKey where
  rawBytes : Bytes
  keyDetails : Str
  validFor : ValidityPeriod
  deriving DecidableEq

/-- A Rekor instance. -/
structure TransparencyLog where
  baseUrl : Str
  hashAlgorithm : Str
  publicKey : PublicKey
  logIdKeyId : Bytes
  checkpointKeyId : Option Bytes
  deriving DecidableEq

/-- A certificate transparency log. -/
structure CtLog where
  baseUrl : Str
  hashAlgorithm : Str
  publicKey : PublicKey
  logIdKeyId : Bytes
  deriving DecidableEq

/-- The subject of an authority, for display. -/
structure CaSubject where
  organization : Str
  commonName : Str
  deriving DecidableEq

/-- A certificate authority or a timestamp authority. -/
structure CertificateAuthority where
  subject : CaSubject
  uri : Str
  certificates : List Certificate
  validFor : ValidityPeriod
  deriving DecidableEq

/-- The parsed trust material. -/
structure TrustStore where
  mediaType : Str
  tlogs : List TransparencyLog
  ctlogs : List CtLog
  certificateAuthorities : List CertificateAuthority
  timestampAuthorities : List CertificateAuthority
  /-- Hex SHA-256 of the document the store was parsed from. -/
  fingerprint : Str
  source : Str
  deriving DecidableEq

/-- `impl PartialEq for TrustStore`. -/
def TrustStore.sameContent (a b : TrustStore) : Prop :=
  a.mediaType = b.mediaType ∧ a.tlogs = b.tlogs ∧ a.ctlogs = b.ctlogs ∧
    a.certificateAuthorities = b.certificateAuthorities ∧
    a.timestampAuthorities = b.timestampAuthorities

/-! ### The raw mirrors -/

/-- A period as the document spells it. -/
structure RawValidFor where
  start : Str
  end_ : Option Str

/-- A key as the document spells it. -/
structure RawPublicKey where
  rawBytes : Str
  keyDetails : Str
  validFor : RawValidFor

/-- A log of either kind as the document spells it. -/
structure RawTlog where
  baseUrl : Str
  hashAlgorithm : Str
  publicKey : RawPublicKey
  logId : RawLogId
  checkpointKeyId : Option Str

/-- An authority's subject as the document spells it. -/
structure RawCaSubject where
  organization : Str
  commonName : Str

/-- A certificate as the document spells it, in base64. -/
structure RawCertEntry where
  rawBytes : Str

/-- A chain of certificates as the document spells it. -/
structure RawCertChain where
  certificates : List RawCertEntry

/-- An authority as the document spells it. -/
structure RawCertificateAuthority where
  subject : RawCaSubject
  uri : Str
  certChain : RawCertChain
  validFor : RawValidFor

/-- The document. -/
structure RawTrustedRoot where
  mediaType : Str
  tlogs : List RawTlog
  ctlogs : List RawTlog
  certificateAuthorities : List RawCertificateAuthority
  timestampAuthorities : List RawCertificateAuthority

/-- The derived `Deserialize` of a period. -/
def rawValidFor : Decoder RawValidFor := struct do
  let start ← required "start" string
  let end_ ← defaulted "end" (nullable string) none
  pure ⟨start, end_⟩

/-- The derived `Deserialize` of a key. -/
def rawPublicKey : Decoder RawPublicKey := struct do
  let rawBytes ← required "rawBytes" string
  let keyDetails ← required "keyDetails" string
  let validFor ← required "validFor" rawValidFor
  pure ⟨rawBytes, keyDetails, validFor⟩

/-- The derived `Deserialize` of a log. -/
def rawTlog : Decoder RawTlog := struct do
  let baseUrl ← required "baseUrl" string
  let hashAlgorithm ← required "hashAlgorithm" string
  let publicKey ← required "publicKey" rawPublicKey
  let logId ← required "logId" rawLogId
  let checkpointKeyId ← defaulted "checkpointKeyId" (nullable string) none
  pure ⟨baseUrl, hashAlgorithm, publicKey, logId, checkpointKeyId⟩

/-- The derived `Deserialize` of a subject. -/
def rawCaSubject : Decoder RawCaSubject := struct do
  let organization ← required "organization" string
  let commonName ← required "commonName" string
  pure ⟨organization, commonName⟩

/-- The derived `Deserialize` of a certificate. -/
def rawCertEntry : Decoder RawCertEntry := struct do
  let rawBytes ← required "rawBytes" string
  pure ⟨rawBytes⟩

/-- The derived `Deserialize` of a chain. -/
def rawCertChain : Decoder RawCertChain := struct do
  let certificates ← required "certificates" (seq rawCertEntry)
  pure ⟨certificates⟩

/-- The derived `Deserialize` of an authority. -/
def rawCertificateAuthority : Decoder RawCertificateAuthority := struct do
  let subject ← required "subject" rawCaSubject
  let uri ← required "uri" string
  let certChain ← required "certChain" rawCertChain
  let validFor ← required "validFor" rawValidFor
  pure ⟨subject, uri, certChain, validFor⟩

/-- The derived `Deserialize` of the document. -/
def rawTrustedRoot : Decoder RawTrustedRoot := struct do
  let mediaType ← required "mediaType" string
  let tlogs ← defaulted "tlogs" (seq rawTlog) []
  let ctlogs ← defaulted "ctlogs" (seq rawTlog) []
  let certificateAuthorities ← defaulted "certificateAuthorities" (seq rawCertificateAuthority) []
  let timestampAuthorities ← defaulted "timestampAuthorities" (seq rawCertificateAuthority) []
  pure ⟨mediaType, tlogs, ctlogs, certificateAuthorities, timestampAuthorities⟩

/-! ### Conversion -/

/-- Both ends of a period, each under its own field path. -/
def ValidityPeriod.fromRaw (raw : RawValidFor) : Except Error ValidityPeriod := do
  let start ← parseRfc3339 "validFor.start" raw.start
  let end_ ← raw.end_.mapM (parseRfc3339 "validFor.end")
  pure ⟨start, end_⟩

/-- The key's bytes, then its period. -/
def PublicKey.fromRaw (raw : RawPublicKey) : Except Error PublicKey := do
  let rawBytes ← strictBase64 "publicKey.rawBytes" raw.rawBytes
  let validFor ← ValidityPeriod.fromRaw raw.validFor
  pure ⟨rawBytes, raw.keyDetails, validFor⟩

/-- A Rekor instance, with the optional checkpoint key id. -/
def TransparencyLog.fromRaw (raw : RawTlog) : Except Error TransparencyLog := do
  let publicKey ← PublicKey.fromRaw raw.publicKey
  let logIdKeyId ← strictBase64 "tlogs[].logId.keyId" raw.logId.keyId
  let checkpointKeyId ← raw.checkpointKeyId.mapM (strictBase64 "tlogs[].checkpointKeyId")
  pure ⟨raw.baseUrl, raw.hashAlgorithm, publicKey, logIdKeyId, checkpointKeyId⟩

/-- A CT log, which has no checkpoint key id. -/
def CtLog.fromRaw (raw : RawTlog) : Except Error CtLog := do
  let publicKey ← PublicKey.fromRaw raw.publicKey
  let logIdKeyId ← strictBase64 "ctlogs[].logId.keyId" raw.logId.keyId
  pure ⟨raw.baseUrl, raw.hashAlgorithm, publicKey, logIdKeyId⟩

/-- An authority, with at most `maxCertificatesPerChain` certificates. -/
def CertificateAuthority.fromRaw (raw : RawCertificateAuthority) :
    Except Error CertificateAuthority := do
  checkCount raw.certChain.certificates maxCertificatesPerChain .tooManyCertificates
  let certificates ← raw.certChain.certificates.mapM fun entry => do
    let rawBytes ← strictBase64 "certChain.certificates[].rawBytes" entry.rawBytes
    pure (⟨rawBytes⟩ : Certificate)
  let validFor ← ValidityPeriod.fromRaw raw.validFor
  pure ⟨⟨raw.subject.organization, raw.subject.commonName⟩, raw.uri, certificates, validFor⟩

/-- The media type, then the four lists in their order. -/
def TrustStore.fromRaw (raw : RawTrustedRoot) (fingerprint source : Str) :
    Except Error TrustStore := do
  ensure (raw.mediaType = trustedRootMediaType) (.unsupported (.mediaType raw.mediaType))
  let tlogs ← raw.tlogs.mapM TransparencyLog.fromRaw
  let ctlogs ← raw.ctlogs.mapM CtLog.fromRaw
  let certificateAuthorities ← raw.certificateAuthorities.mapM CertificateAuthority.fromRaw
  let timestampAuthorities ← raw.timestampAuthorities.mapM CertificateAuthority.fromRaw
  pure ⟨raw.mediaType, tlogs, ctlogs, certificateAuthorities, timestampAuthorities, fingerprint,
    source⟩

/-- `TrustStore::from_json`; the fingerprint is the document's SHA-256. -/
def TrustStore.fromJson (X : Externals) (bytes : Bytes) : Except Error TrustStore := do
  checkInputSize bytes
  let value ← parseStrict X bytes
  let raw ← fromValue rawTrustedRoot value
  let fingerprint := Hex.encode (X.sha256 bytes).bytes
  TrustStore.fromRaw raw fingerprint "external".toList

/-- The root that comes with the crate; `embedded` is the text of its asset. -/
def TrustStore.embeddedPublicGood (X : Externals) (embedded : Bytes) : Except Error TrustStore := do
  let store ← TrustStore.fromJson X embedded
  pure { store with source := "embedded-public-good".toList }

end AttestationVerify
