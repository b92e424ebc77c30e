import AttestationVerify.Wire.Text

namespace AttestationVerify

open Wire

/-!
# The error taxonomy

One inductive per enum of `error.rs`, with the variants the crate constructs.  A field that only
ever holds another library's message (`serde_json`, `hex`, `base64`, `der`) is dropped, or is
`Reason.library` where this crate fills the same field with texts of its own.
-/

/-- A human-readable reason: a text of this crate, or whatever a library reported. -/
inductive Reason
  | text (s : Str)
  | library
  deriving DecidableEq

/-- What can be wrong with a text. -/
inductive ParseError
  | json
  | base64 (field : String) (reason : Reason)
  | hex (field : String)
  | malformedDigest
  | notAnInteger (field : String) (value : Str)
  | dsseSignatureCount (count : ℕ)
  | emptyContainer (what : String)
  | malformedSubject (text : Str)
  | rfc3339 (field : String) (reason : String)
  | checkpoint (reason : String)
  deriving DecidableEq

/-- What is well formed and of a kind that is not supported. -/
inductive UnsupportedError
  | mediaType (found : Str)
  | bundlesNotInline
  | tlogEntryKindVersion (kind version : Str)
  | dssePayloadType (found : Str)
  | statementType (found : Str)
  | predicateType (found : Str)
  | multipleTlogEntries (count : ℕ)
  deriving DecidableEq

/-- What can be wrong with a certificate or its chain. -/
inductive CertificateError
  | invalidDer (reason : Reason)
  | unsupportedKeyAlgorithm
  | unsupportedSignatureAlgorithm
  | untrustedCertificate
  | signatureInvalid
  | issuerNameMismatch
  | outsideCertificateValidity
  | outsideCaValidity
  | invalidBasicConstraints
  | pathLengthExceeded
  | missingKeyUsage
  | missingCodeSigningEku
  | unknownCriticalExtension
  | duplicateExtension
  | sctMissing
  | sctInvalid
  | unknownCtLog
  | sctOutsideKeyValidity
  deriving DecidableEq

/-- What can be wrong with the transparency-log evidence. -/
inductive TransparencyError
  | inclusionProofInvalid
  | noTlogEntries
  | unknownLogKey
  | setMissing
  | setInvalid
  | inclusionProofMissing
  | checkpointTreeSizeMismatch
  | checkpointRootHashMismatch
  | checkpointSignatureInvalid
  | checkpointOriginMismatch
  deriving DecidableEq

/-- The two windows a promised time can be outside of. -/
inductive TimestampError
  | integratedTimeOutsideLogKeyValidity
  | integratedTimeOutsideCertificateValidity
  deriving DecidableEq

/-- What can be wrong between the parts of a bundle. -/
inductive ContentBindingError
  | subjectNotFound
  | dsseSignatureInvalid
  | tlogEntryKindVersionMismatch
  | tlogEntrySignatureMismatch
  | tlogEntryCertificateMismatch
  | tlogEntryPayloadHashMismatch
  | tlogEntryEnvelopeHashMismatch
  deriving DecidableEq

/-- What can be wrong with a policy, or with an identity under one. -/
inductive PolicyError
  | invalidConfiguration (text : String)
  | missingIdentityClaim (claim : String)
  | malformedIdentityClaim (claim : String) (reason : Str)
  | issuerMismatch (expected found : Str)
  | sourceRepositoryMismatch (expected found : Str)
  | sourceOwnerIdMismatch (expected found : Str)
  | sourceRepositoryIdMismatch (expected found : Str)
  | sourceRefMismatch (expected found : Str)
  | sourceCommitMismatch (expected found : Str)
  | signerRepositoryMismatch (expected found : Str)
  | signerWorkflowPathMismatch (expected found : Str)
  | signerRevisionMismatch (expected found : Str)
  deriving DecidableEq

/-- The limits on inputs, with what was found. -/
inductive ResourceLimitError
  | inputTooLarge (actual limit : ℕ)
  | tooManyJsonNodes (limit : ℕ)
  | tooManyTlogEntries (actual limit : ℕ)
  | tooManySubjects (actual limit : ℕ)
  | tooManyBundles (actual limit : ℕ)
  | tooManyCertificates (actual limit : ℕ)
  | tooManyCheckpointSignatures (actual limit : ℕ)
  deriving DecidableEq

/-- The error of every public function. -/
inductive Error
  | parse (e : ParseError)
  | unsupported (e : UnsupportedError)
  | certificate (e : CertificateError)
  | transparency (e : TransparencyError)
  | timestamp (e : TimestampError)
  | contentBinding (e : ContentBindingError)
  | policy (e : PolicyError)
  | resourceLimit (e : ResourceLimitError)
  deriving DecidableEq

end AttestationVerify
