import AttestationVerify.Bundle
import Mathlib.Algebra.Group.Int.Defs

namespace AttestationVerify

open Wire

/-!
# DSSE envelopes and verifying keys

`dsse.rs`: the pre-authentication encoding, the ECDSA keys every signature of the crate is checked
with, and the leaf's key and validity window as read straight from its DER.
-/

/-- `"DSSEv1" SP len(payloadType) SP payloadType SP len(payload) SP payload`, in bytes. -/
def pae (payloadType : Str) (payload : Bytes) : Bytes :=
  utf8 "DSSEv1 ".toList ++ utf8 (decimal (utf8 payloadType).length) ++ [32] ++ utf8 payloadType ++
    [32] ++ utf8 (decimal payload.length) ++ [32] ++ payload

/-! ### Keys -/

/-- A key on one of the two curves. -/
inductive EcdsaVerifyingKey
  | p256 (key : Bytes)
  | p384 (key : Bytes)
  deriving DecidableEq

/-- P-256 is tried first, then P-384. -/
def EcdsaVerifyingKey.fromSpkiDer (X : Externals) (spkiDer : Bytes) :
    Except Error EcdsaVerifyingKey :=
  match X.p256.fromPublicKeyDer spkiDer with
  | some key => .ok (.p256 key)
  | none =>
    match X.p384.fromPublicKeyDer spkiDer with
    | some key => .ok (.p384 key)
    | none => .error (.certificate .unsupportedKeyAlgorithm)

/-- A DER signature, checked on the key's own curve. -/
def EcdsaVerifyingKey.verifyDer (X : Externals) (key : EcdsaVerifyingKey)
    (message signature : Bytes) : Bool :=
  match key with
  | .p256 key => X.p256.verify key message signature
  | .p384 key => X.p384.verify key message signature

/-! ### The leaf, before its chain is validated -/

/-- What the envelope and the time checks need of a leaf. -/
structure LeafCertificateInfo where
  key : EcdsaVerifyingKey
  notBefore : ℤ
  notAfter : ℤ
  deriving DecidableEq

/-- Seconds of a duration as an `i64`, saturating. -/
def unixSeconds (seconds : ℕ) : ℤ := min (seconds : ℤ) (2 ^ 63 - 1)

/-- The error on anything that the DER library refuses. -/
def invalidDer : Error := .certificate (.invalidDer .library)

/-- The certificate is decoded, then its key, then its window is read off. -/
def LeafCertificateInfo.fromCertificate (X : Externals) (certificate : Certificate) :
    Except Error LeafCertificateInfo := do
  let cert ← okOr (X.der.certificate certificate.rawBytes) invalidDer
  let tbs := cert.tbsCertificate
  let spkiDer ← okOr tbs.spkiDer invalidDer
  let key ← EcdsaVerifyingKey.fromSpkiDer X spkiDer
  pure ⟨key, unixSeconds tbs.notBefore, unixSeconds tbs.notAfter⟩

/-- The envelope's one signature is over its pre-authentication encoding. -/
def verifyEnvelope (X : Externals) (envelope : DsseEnvelope) (leafKey : EcdsaVerifyingKey) :
    Except Error Unit :=
  ensure (leafKey.verifyDer X (pae envelope.payloadType envelope.payload) envelope.signature.sig)
    (.contentBinding .dsseSignatureInvalid)

end AttestationVerify
