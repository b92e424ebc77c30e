import AttestationVerify.X509

namespace AttestationVerify

open Wire

/-!
# Fulcio identity claims

`fulcio.rs`: the extensions of a validated leaf that name the workflow it was issued to.
-/

/-- `1.3.6.1.4.1.57264.1.<n>`. -/
def fulcioOid (n : ℕ) : Oid := [1, 3, 6, 1, 4, 1, 57264, 1, n]

/-- Every field is absent when its extension is. -/
structure FulcioClaims where
  sanUri : Option Str
  issuer : Option Str
  buildSignerUri : Option Str
  buildSignerDigest : Option Str
  runnerEnvironment : Option Str
  sourceRepositoryUri : Option Str
  sourceRepositoryDigest : Option Str
  sourceRepositoryRef : Option Str
  sourceRepositoryId : Option Str
  sourceRepositoryOwnerUri : Option Str
  sourceRepositoryOwnerId : Option Str
  buildConfigUri : Option Str
  buildConfigDigest : Option Str
  buildTrigger : Option Str
  runInvocationUri : Option Str
  deriving DecidableEq

/-- A claim that has an extension of its own, as UTF-8 text. -/
def extractUtf8Claim (X : Externals) (extensions : List Extension) (oid : Oid) :
    Except Error (Option Str) := do
  match ← findExtension extensions oid with
  | none => pure none
  | some ext =>
    let s ← okOr (X.der.utf8String ext.extnValue) invalidDer
    pure (some s)

/-- The first URI among the subject's alternative names. -/
def extractSanUri (X : Externals) (extensions : List Extension) : Except Error (Option Str) := do
  match ← findExtension extensions idCeSubjectAltName with
  | none => pure none
  | some ext =>
    let names ← okOr (X.der.subjectAltName ext.extnValue) invalidDer
    pure (names.findSome? fun
      | .uniformResourceIdentifier uri => some uri
      | .other _ _ => none)

/-- `extract_claims`: the SAN, then each claim by its identifier. -/
def extractClaims (X : Externals) (validated : ValidatedLeaf) : Except Error FulcioClaims := do
  let extensions := extensionsSlice validated.leaf.tbsCertificate
  let sanUri ← extractSanUri X extensions
  let issuer ← extractUtf8Claim X extensions (fulcioOid 8)
  let buildSignerUri ← extractUtf8Claim X extensions (fulcioOid 9)
  let buildSignerDigest ← extractUtf8Claim X extensions (fulcioOid 10)
  let runnerEnvironment ← extractUtf8Claim X extensions (fulcioOid 11)
  let sourceRepositoryUri ← extractUtf8Claim X extensions (fulcioOid 12)
  let sourceRepositoryDigest ← extractUtf8Claim X extensions (fulcioOid 13)
  let sourceRepositoryRef ← extractUtf8Claim X extensions (fulcioOid 14)
  let sourceRepositoryId ← extractUtf8Claim X extensions (fulcioOid 15)
  let sourceRepositoryOwnerUri ← extractUtf8Claim X extensions (fulcioOid 16)
  let sourceRepositoryOwnerId ← extractUtf8Claim X extensions (fulcioOid 17)
  let buildConfigUri ← extractUtf8Claim X extensions (fulcioOid 18)
  let buildConfigDigest ← extractUtf8Claim X extensions (fulcioOid 19)
  let buildTrigger ← extractUtf8Claim X extensions (fulcioOid 20)
  let runInvocationUri ← extractUtf8Claim X extensions (fulcioOid 21)
  pure
    { sanUri, issuer, buildSignerUri, buildSignerDigest, runnerEnvironment, sourceRepositoryUri
      sourceRepositoryDigest, sourceRepositoryRef, sourceRepositoryId, sourceRepositoryOwnerUri
      sourceRepositoryOwnerId, buildConfigUri, buildConfigDigest, buildTrigger, runInvocationUri }

end AttestationVerify
