import AttestationVerify.Statement

namespace AttestationVerify

open Wire Wire.Json Wire.Serde

/-!
# Sigstore bundles

`bundle.rs`: the hardened data model, the raw protojson mirrors it is converted from, and the two
container shapes.

* `Bundle.fromJson` — one bundle;
* `BundleSet.fromJsonLines` — one bundle a line;
* `BundleSet.fromGithubResponse` — the attestations API response.

The raw decoders follow the derived `Deserialize` of the source field by field: `required` where
the field has no default, `defaulted` where it carries `#[serde(default)]`, names after
`rename_all = "camelCase"`.
-/

/-- The one media type that is read: Sigstore bundle v0.3. -/
def bundleMediaType : Str := "application/vnd.dev.sigstore.bundle.v0.3+json".toList

/-! ### The hardened model -/

/-- A certificate held as opaque DER bytes. -/
structure Certificate where
  rawBytes : Bytes
  deriving DecidableEq

/-- The log's signed promise to include an entry. -/
structure InclusionPromise where
  signedEntryTimestamp : Bytes
  deriving DecidableEq

/-- A signed note over the tree, as text. -/
structure Checkpoint where
  envelope : Str
  deriving DecidableEq

/-- The path from an entry to the root of a tree, with a note over that root. -/
structure InclusionProof where
  logIndex : UInt64
  rootHash : Bytes
  treeSize : UInt64
  hashes : List Bytes
  checkpoint : Checkpoint
  deriving DecidableEq

/-- One entry of the transparency log. -/
structure TlogEntry where
  logIndex : UInt64
  logIdKeyId : Bytes
  kind : Str
  version : Str
  integratedTime : UInt64
  inclusionPromise : Option InclusionPromise
  inclusionProof : Option InclusionProof
  canonicalizedBody : Bytes
  deriving DecidableEq

/-- A timestamp response; the verifier never looks into it. -/
structure Rfc3161Timestamp where
  signedTimestamp : Bytes
  deriving DecidableEq

/-- The timestamps of a bundle. -/
structure TimestampVerificationData where
  rfc3161Timestamps : List Rfc3161Timestamp
  deriving DecidableEq

/-- What a bundle is verified with: its leaf, its log entries and its timestamps. -/
structure VerificationMaterial where
  certificate : Certificate
  tlogEntries : List TlogEntry
  timestampVerificationData : TimestampVerificationData
  deriving DecidableEq

/-- The signature of an envelope; nothing is looked up by its `keyid`. -/
structure DsseSignature where
  sig : Bytes
  keyid : Option Str
  deriving DecidableEq

/-- A signed payload and its type. -/
structure DsseEnvelope where
  payload : Bytes
  payloadType : Str
  /-- The one signature; any other count is rejected while parsing. -/
  signature : DsseSignature
  deriving DecidableEq

/-- A Sigstore bundle, decoded. -/
structure Bundle where
  mediaType : Str
  verificationMaterial : VerificationMaterial
  dsseEnvelope : DsseEnvelope
  deriving DecidableEq

/-! ### The raw mirrors -/

/-- A certificate as it stands in the JSON text. -/
structure RawCertificate where
  rawBytes : Str

/-- A log id as it stands there. -/
structure RawLogId where
  keyId : Str

/-- The kind and version of an entry. -/
structure RawKindVersion where
  kind : Str
  version : Str

/-- A promise, its bytes still in base64. -/
structure RawInclusionPromise where
  signedEntryTimestamp : Str

/-- A checkpoint; the envelope is taken as text. -/
structure RawCheckpoint where
  envelope : Str

/-- An inclusion proof, its integers still as strings and its hashes in base64. -/
structure RawInclusionProof where
  logIndex : Str
  rootHash : Str
  treeSize : Str
  hashes : List Str
  checkpoint : RawCheckpoint

/-- A log entry, with its integers as strings and its bytes in base64. -/
structure RawTlogEntry where
  logIndex : Str
  logId : RawLogId
  kindVersion : RawKindVersion
  integratedTime : Str
  inclusionPromise : Option RawInclusionPromise
  inclusionProof : Option RawInclusionProof
  canonicalizedBody : Str

/-- A timestamp, its bytes in base64. -/
structure RawRfc3161Timestamp where
  signedTimestamp : Str

/-- The timestamps. -/
structure RawTimestampVerificationData where
  rfc3161Timestamps : List RawRfc3161Timestamp

/-- The verification material. -/
structure RawVerificationMaterial where
  certificate : RawCertificate
  tlogEntries : List RawTlogEntry
  timestampVerificationData : RawTimestampVerificationData

/-- A signature, its bytes in base64. -/
structure RawDsseSignature where
  sig : Str
  keyid : Option Str

/-- An envelope with any number of signatures. -/
structure RawDsseEnvelope where
  payload : Str
  payloadType : Str
  signatures : List RawDsseSignature

/-- The whole document, before anything in it is decoded. -/
structure RawBundle where
  mediaType : Str
  verificationMaterial : RawVerificationMaterial
  dsseEnvelope : RawDsseEnvelope

/-- The derived reader of a certificate. -/
def rawCertificate : Decoder RawCertificate := struct do
  let rawBytes ← required "rawBytes" string
  pure ⟨rawBytes⟩

/-- The derived reader of a log id. -/
def rawLogId : Decoder RawLogId := struct do
  let keyId ← required "keyId" string
  pure ⟨keyId⟩

/-- The derived reader of a kind and version. -/
def rawKindVersion : Decoder RawKindVersion := struct do
  let kind ← required "kind" string
  let version ← required "version" string
  pure ⟨kind, version⟩

/-- The derived reader of a promise. -/
def rawInclusionPromise : Decoder RawInclusionPromise := struct do
  let signedEntryTimestamp ← required "signedEntryTimestamp" string
  pure ⟨signedEntryTimestamp⟩

/-- The derived reader of a checkpoint. -/
def rawCheckpoint : Decoder RawCheckpoint := struct do
  let envelope ← required "envelope" string
  pure ⟨envelope⟩

/-- The derived reader of a proof; only the hashes may be left out. -/
def rawInclusionProof : Decoder RawInclusionProof := struct do
  let logIndex ← required "logIndex" string
  let rootHash ← required "rootHash" string
  let treeSize ← required "treeSize" string
  let hashes ← defaulted "hashes" (seq string) []
  let checkpoint ← required "checkpoint" rawCheckpoint
  pure ⟨logIndex, rootHash, treeSize, hashes, checkpoint⟩

/-- The derived reader of an entry, whose promise and proof may be absent or `null`. -/
def rawTlogEntry : Decoder RawTlogEntry := struct do
  let logIndex ← required "logIndex" string
  let logId ← required "logId" rawLogId
  let kindVersion ← required "kindVersion" rawKindVersion
  let integratedTime ← required "integratedTime" string
  let inclusionPromise ← defaulted "inclusionPromise" (nullable rawInclusionPromise) none
  let inclusionProof ← defaulted "inclusionProof" (nullable rawInclusionProof) none
  let canonicalizedBody ← required "canonicalizedBody" string
  pure ⟨logIndex, logId, kindVersion, integratedTime, inclusionPromise, inclusionProof,
    canonicalizedBody⟩

/-- The derived reader of a timestamp. -/
def rawRfc3161Timestamp : Decoder RawRfc3161Timestamp := struct do
  let signedTimestamp ← required "signedTimestamp" string
  pure ⟨signedTimestamp⟩

/-- The derived reader of the timestamps, none by default. -/
def rawTimestampVerificationData : Decoder RawTimestampVerificationData := struct do
  let rfc3161Timestamps ← defaulted "rfc3161Timestamps" (seq rawRfc3161Timestamp) []
  pure ⟨rfc3161Timestamps⟩

/-- The derived reader of the material; only the certificate is required. -/
def rawVerificationMaterial : Decoder RawVerificationMaterial := struct do
  let certificate ← required "certificate" rawCertificate
  let tlogEntries ← defaulted "tlogEntries" (seq rawTlogEntry) []
  let timestampVerificationData ←
    defaulted "timestampVerificationData" rawTimestampVerificationData ⟨[]⟩
  pure ⟨certificate, tlogEntries, timestampVerificationData⟩

/-- The derived reader of a signature, whose `keyid` may be absent or `null`. -/
def rawDsseSignature : Decoder RawDsseSignature := struct do
  let sig ← required "sig" string
  let keyid ← defaulted "keyid" (nullable string) none
  pure ⟨sig, keyid⟩

/-- The derived reader of an envelope, which may have no signatures yet. -/
def rawDsseEnvelope : Decoder RawDsseEnvelope := struct do
  let payload ← required "payload" string
  let payloadType ← required "payloadType" string
  let signatures ← defaulted "signatures" (seq rawDsseSignature) []
  pure ⟨payload, payloadType, signatures⟩

/-- The derived reader of the document. -/
def rawBundle : Decoder RawBundle := struct do
  let mediaType ← required "mediaType" string
  let verificationMaterial ← required "verificationMaterial" rawVerificationMaterial
  let dsseEnvelope ← required "dsseEnvelope" rawDsseEnvelope
  pure ⟨mediaType, verificationMaterial, dsseEnvelope⟩

/-! ### Conversion -/

/-- A certificate is decoded from base64, and not looked into. -/
def Certificate.fromRaw (raw : RawCertificate) : Except Error Certificate := do
  let rawBytes ← strictBase64 "certificate.rawBytes" raw.rawBytes
  pure ⟨rawBytes⟩

/-- A promise is decoded from base64. -/
def InclusionPromise.fromRaw (raw : RawInclusionPromise) : Except Error InclusionPromise := do
  let signedEntryTimestamp ←
    strictBase64 "inclusionPromise.signedEntryTimestamp" raw.signedEntryTimestamp
  pure ⟨signedEntryTimestamp⟩

/-- The fields of a proof are decoded in the order of the source. -/
def InclusionProof.fromRaw (raw : RawInclusionProof) : Except Error InclusionProof := do
  let logIndex ← strictStringifiedU64 "inclusionProof.logIndex" raw.logIndex
  let rootHash ← strictBase64 "inclusionProof.rootHash" raw.rootHash
  let treeSize ← strictStringifiedU64 "inclusionProof.treeSize" raw.treeSize
  let hashes ← raw.hashes.mapM (strictBase64 "inclusionProof.hashes[]")
  pure ⟨logIndex, rootHash, treeSize, hashes, ⟨raw.checkpoint.envelope⟩⟩

/-- The fields of an entry are decoded in that order too, the body last. -/
def TlogEntry.fromRaw (raw : RawTlogEntry) : Except Error TlogEntry := do
  let logIndex ← strictStringifiedU64 "tlogEntries[].logIndex" raw.logIndex
  let logIdKeyId ← strictBase64 "tlogEntries[].logId.keyId" raw.logId.keyId
  let integratedTime ← strictStringifiedU64 "tlogEntries[].integratedTime" raw.integratedTime
  let inclusionPromise ← raw.inclusionPromise.mapM InclusionPromise.fromRaw
  let inclusionProof ← raw.inclusionProof.mapM InclusionProof.fromRaw
  let canonicalizedBody ← strictBase64 "tlogEntries[].canonicalizedBody" raw.canonicalizedBody
  pure ⟨logIndex, logIdKeyId, raw.kindVersion.kind, raw.kindVersion.version, integratedTime,
    inclusionPromise, inclusionProof, canonicalizedBody⟩

/-- A timestamp is decoded from base64. -/
def Rfc3161Timestamp.fromRaw (raw : RawRfc3161Timestamp) : Except Error Rfc3161Timestamp := do
  let signedTimestamp ← strictBase64 "rfc3161Timestamps[].signedTimestamp" raw.signedTimestamp
  pure ⟨signedTimestamp⟩

/-- The timestamps are decoded one by one. -/
def TimestampVerificationData.fromRaw (raw : RawTimestampVerificationData) :
    Except Error TimestampVerificationData := do
  let rfc3161Timestamps ← raw.rfc3161Timestamps.mapM Rfc3161Timestamp.fromRaw
  pure ⟨rfc3161Timestamps⟩

/-- The entries are counted before anything is decoded. -/
def VerificationMaterial.fromRaw (raw : RawVerificationMaterial) :
    Except Error VerificationMaterial := do
  checkCount raw.tlogEntries maxTlogEntries .tooManyTlogEntries
  let certificate ← Certificate.fromRaw raw.certificate
  let tlogEntries ← raw.tlogEntries.mapM TlogEntry.fromRaw
  let timestampVerificationData ← TimestampVerificationData.fromRaw raw.timestampVerificationData
  pure ⟨certificate, tlogEntries, timestampVerificationData⟩

/-- A signature is decoded from base64; its `keyid` is kept as it is. -/
def DsseSignature.fromRaw (raw : RawDsseSignature) : Except Error DsseSignature := do
  let sig ← strictBase64 "dsseEnvelope.signatures[].sig" raw.sig
  pure ⟨sig, raw.keyid⟩

/-- An envelope has to have one signature. -/
def DsseEnvelope.fromRaw (raw : RawDsseEnvelope) : Except Error DsseEnvelope :=
  match raw.signatures with
  | [rawSignature] => do
    let payload ← strictBase64 "dsseEnvelope.payload" raw.payload
    let signature ← DsseSignature.fromRaw rawSignature
    pure ⟨payload, raw.payloadType, signature⟩
  | signatures => .error (.parse (.dsseSignatureCount signatures.length))

/-- The media type is looked at before the rest is decoded. -/
def Bundle.fromRaw (raw : RawBundle) : Except Error Bundle := do
  ensure (raw.mediaType = bundleMediaType) (.unsupported (.mediaType raw.mediaType))
  let verificationMaterial ← VerificationMaterial.fromRaw raw.verificationMaterial
  let dsseEnvelope ← DsseEnvelope.fromRaw raw.dsseEnvelope
  pure ⟨raw.mediaType, verificationMaterial, dsseEnvelope⟩

/-- `Bundle::from_json`: the size, the strict parse, the shape, then the fields. -/
def Bundle.fromJson (X : Externals) (bytes : Bytes) : Except Error Bundle := do
  checkInputSize bytes
  let value ← parseStrict X bytes
  let raw ← fromValue rawBundle value
  Bundle.fromRaw raw

/-- The statement that the bundle's envelope carries. -/
def Bundle.statement (X : Externals) (bundle : Bundle) : Except Error Statement :=
  Statement.fromPayload X bundle.dsseEnvelope.payload

/-! ### Bundle sets -/

/-- One entry of an attestations API response. -/
structure AttestationEntry where
  initiator : Str
  repositoryId : Option UInt64
  bundleUrl : Option Str
  bundle : Option Bundle
  deriving DecidableEq

/-- Some bundles, with the metadata that came beside them. -/
structure BundleSet where
  bundles : List Bundle
  entries : List AttestationEntry
  deriving DecidableEq

/-- An entry of the GitHub response; the bundle in it is read later. -/
structure RawAttestationEntry where
  initiator : Str
  repositoryId : Option UInt64
  bundleUrl : Option Str
  bundle : Option Value

/-- The GitHub response: a list of attestations. -/
structure RawGithubResponse where
  attestations : List RawAttestationEntry

/-- The derived reader of an entry, under the names `rename_all` gives its fields. -/
def rawAttestationEntry : Decoder RawAttestationEntry := struct do
  let initiator ← required "initiator" string
  let repositoryId ← defaulted "repositoryId" (nullable u64) none
  let bundleUrl ← defaulted "bundleUrl" (nullable string) none
  let bundle ← defaulted "bundle" (nullable value) none
  pure ⟨initiator, repositoryId, bundleUrl, bundle⟩

/-- The derived reader of the response. -/
def rawGithubResponse : Decoder RawGithubResponse := struct do
  let attestations ← required "attestations" (seq rawAttestationEntry)
  pure ⟨attestations⟩

/-- `<[u8]>::trim_ascii`. -/
def trimAscii (line : Bytes) : Bytes :=
  let isSpace : UInt8 → Bool := fun b => b ∈ ([9, 10, 12, 13, 32] : Bytes)
  ((line.dropWhile isSpace).reverse.dropWhile isSpace).reverse

/-- Each line that is not blank is one bundle document; there is no size check per line. -/
def BundleSet.fromJsonLines (X : Externals) (bytes : Bytes) : Except Error BundleSet := do
  checkInputSize bytes
  let lines := ((bytes.splitOn 10).map trimAscii).filter (· ≠ [])
  let bundles ← lines.mapM fun line => do
    let value ← parseStrict X line
    let raw ← fromValue rawBundle value
    Bundle.fromRaw raw
  ensure (bundles ≠ []) (.parse (.emptyContainer "BundleSet: no bundle lines in JSONL input"))
  checkCount bundles maxBundlesPerSet .tooManyBundles
  pure ⟨bundles, []⟩

/-- An inline bundle document, already strict-parsed as part of the response. -/
def Bundle.fromInline (value : Value) : Except Error Bundle := do
  let raw ← fromValue rawBundle value
  Bundle.fromRaw raw

/-- One turn of the loop of `from_github_response`. -/
def AttestationEntry.fromRaw (raw : RawAttestationEntry) : Except Error AttestationEntry := do
  let bundle ← raw.bundle.mapM Bundle.fromInline
  pure ⟨raw.initiator, raw.repositoryId, raw.bundleUrl, bundle⟩

/-- `BundleSet::from_github_response`: every entry has to bring its bundle inline. -/
def BundleSet.fromGithubResponse (X : Externals) (bytes : Bytes) : Except Error BundleSet := do
  checkInputSize bytes
  let value ← parseStrict X bytes
  let raw ← fromValue rawGithubResponse value
  ensure (raw.attestations ≠ [])
    (.parse (.emptyContainer "attestations API response: no attestation entries"))
  checkCount raw.attestations maxBundlesPerSet .tooManyBundles
  let entries ← raw.attestations.mapM AttestationEntry.fromRaw
  let bundles := entries.filterMap (·.bundle)
  ensure (bundles ≠ []) (.unsupported .bundlesNotInline)
  pure ⟨bundles, entries⟩

end AttestationVerify
