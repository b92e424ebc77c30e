import AttestationVerify.Wire.Json

namespace AttestationVerify

open Wire

/-!
# Third-party code

`Externals` collects the library functions the crate calls and does not define: the JSON reader,
SHA-256, the two ECDSA curves and the DER codec.  Every function of the model that reaches one of
them takes the record as a parameter, so a result holds whatever they compute unless it names an
assumption.

`Certificate` is what `x509_cert` returns, cut down to what the crate reads off it.
-/

/-- `der::asn1::ObjectIdentifier`: its arcs. -/
abbrev Oid := List ℕ

/-- `x509_cert::ext::Extension`. -/
structure Extension where
  extnId : Oid
  critical : Bool
  extnValue : Bytes
  deriving DecidableEq

/-- `x509_cert::TbsCertificate`.  A distinguished name is only ever compared, so it is kept as its
    encoding; times are unix seconds. -/
structure TbsCertificate where
  subject : Bytes
  issuer : Bytes
  notBefore : ℕ
  notAfter : ℕ
  /-- What `subject_public_key_info().to_der()` returns. -/
  spkiDer : Option Bytes
  extensions : Option (List Extension)
  /-- What `to_der()` of the whole structure returns. -/
  der : Option Bytes
  deriving DecidableEq

/-- `x509_cert::Certificate`. -/
structure X509Certificate where
  tbsCertificate : TbsCertificate
  signatureAlgorithm : Oid
  signature : Bytes
  deriving DecidableEq

/-- `x509_cert::ext::pkix::BasicConstraints`; the path length is a `u8`. -/
structure BasicConstraints where
  ca : Bool
  pathLenConstraint : Option UInt8
  deriving DecidableEq

/-- `x509_cert::ext::pkix::KeyUsage`, the two bits read here. -/
structure KeyUsage where
  digitalSignature : Bool
  keyCertSign : Bool
  deriving DecidableEq

/-- `x509_cert::ext::pkix::name::GeneralName`. -/
inductive GeneralName
  | uniformResourceIdentifier (uri : Str)
  | other (tag : ℕ) (value : Bytes)
  deriving DecidableEq

/-- `der::asn1::AnyRef`: one TLV. -/
structure AnyRef where
  tag : UInt8
  value : Bytes
  deriving DecidableEq

/-- The `der` / `x509_cert` decoders and encoders in use; `none` where the library errs. -/
structure Der where
  certificate : Bytes → Option X509Certificate
  basicConstraints : Bytes → Option BasicConstraints
  keyUsage : Bytes → Option KeyUsage
  extendedKeyUsage : Bytes → Option (List Oid)
  subjectAltName : Bytes → Option (List GeneralName)
  octetString : Bytes → Option Bytes
  utf8String : Bytes → Option Str
  anySequence : Bytes → Option (List AnyRef)
  anySequenceToDer : List AnyRef → Option Bytes
  anyNew : UInt8 → Bytes → Option AnyRef
  extensions : Bytes → Option (List Extension)
  extensionsToDer : List Extension → Option Bytes

/-- One curve of the `ecdsa` crates; a key is its encoded point. -/
structure Curve where
  /-- `VerifyingKey::from_public_key_der`. -/
  fromPublicKeyDer : Bytes → Option Bytes
  /-- `DerSignature::from_bytes(signature)` succeeds and `verify(message, _)` accepts it. -/
  verify : (key message signature : Bytes) → Bool

/-- The libraries in use. -/
structure Externals where
  /-- What `serde_json::Deserializer::from_slice` finds in a text. -/
  readJson : Bytes → Json.Reading
  sha256 : Bytes → Octets 32
  p256 : Curve
  p384 : Curve
  der : Der

/-- Libraries that know one table of JSON texts and reject everything else. -/
def Externals.ofTexts (texts : List (Bytes × Json.Reading)) : Externals where
  readJson bytes := (texts.lookup bytes).getD ⟨.bad, true⟩
  sha256 _ := Octets.zero 32
  p256 := ⟨fun _ => none, fun _ _ _ => false⟩
  p384 := ⟨fun _ => none, fun _ _ _ => false⟩
  der :=
    { certificate := fun _ => none
      basicConstraints := fun _ => none
      keyUsage := fun _ => none
      extendedKeyUsage := fun _ => none
      subjectAltName := fun _ => none
      octetString := fun _ => none
      utf8String := fun _ => none
      anySequence := fun _ => none
      anySequenceToDer := fun _ => none
      anyNew := fun _ _ => none
      extensions := fun _ => none
      extensionsToDer := fun _ => none }

/-- The same libraries with a table of SHA-256 digests. -/
def Externals.withDigests (X : Externals) (digests : List (Bytes × Octets 32)) : Externals :=
  { X with sha256 := fun bytes => (digests.lookup bytes).getD (X.sha256 bytes) }

/-- A listed text is read as listed. -/
theorem readJson_ofTexts_head (text : Bytes) (reading : Json.Reading)
    (rest : List (Bytes × Json.Reading)) :
    (Externals.ofTexts ((text, reading) :: rest)).readJson text = reading := by
  simp [Externals.ofTexts]

/-- Another text is looked up in the rest. -/
theorem readJson_ofTexts_tail {text other : Bytes} (reading : Json.Reading)
    (rest : List (Bytes × Json.Reading)) (h : other ≠ text) :
    (Externals.ofTexts ((text, reading) :: rest)).readJson other =
      (Externals.ofTexts rest).readJson other := by
  have hne : (other == text) = false := beq_eq_false_iff_ne.mpr h
  simp only [Externals.ofTexts, List.lookup_cons, hne]

/-- A listed input has the digest listed for it. -/
theorem sha256_withDigests_head (X : Externals) (bytes : Bytes) (digest : Octets 32)
    (rest : List (Bytes × Octets 32)) :
    (X.withDigests ((bytes, digest) :: rest)).sha256 bytes = digest := by
  simp [Externals.withDigests]

/-- Another input is looked up in the rest. -/
theorem sha256_withDigests_tail (X : Externals) {bytes other : Bytes} (digest : Octets 32)
    (rest : List (Bytes × Octets 32)) (h : other ≠ bytes) :
    (X.withDigests ((bytes, digest) :: rest)).sha256 other =
      (X.withDigests rest).sha256 other := by
  have hne : (other == bytes) = false := beq_eq_false_iff_ne.mpr h
  simp only [Externals.withDigests, List.lookup_cons, hne]

end AttestationVerify
