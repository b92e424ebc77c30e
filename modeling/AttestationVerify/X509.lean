import AttestationVerify.Dsse
import AttestationVerify.Trust
import Mathlib.Data.FinEnum

namespace AttestationVerify

open Wire

/-!
# Certificate chains

`x509.rs`: path validation of a leaf against the trust store's certificate authorities.

* `tryValidateAgainstCa` — one candidate authority; `none` when it does not claim to be the issuer;
* `validateChain` — the candidates in order, the first success winning and the first failure of a
  name-matching candidate being reported otherwise;
* `Anchors` — path validity as a property of one authority and a leaf;
* `validateChain_spec` — the loop succeeds exactly when some authority anchors the leaf.
-/

/-! ### Object identifiers -/

/-- `ecdsa-with-SHA256`. -/
def ecdsaWithSha256 : Oid := [1, 2, 840, 10045, 4, 3, 2]

/-- `ecdsa-with-SHA384`. -/
def ecdsaWithSha384 : Oid := [1, 2, 840, 10045, 4, 3, 3]

/-- The code signing purpose. -/
def idKpCodeSigning : Oid := [1, 3, 6, 1, 5, 5, 7, 3, 3]

/-- The embedded SCT list. -/
def sctListOid : Oid := [1, 3, 6, 1, 4, 1, 11129, 2, 4, 2]

/-- `keyUsage`. -/
def idCeKeyUsage : Oid := [2, 5, 29, 15]

/-- `subjectAltName`. -/
def idCeSubjectAltName : Oid := [2, 5, 29, 17]

/-- `basicConstraints`. -/
def idCeBasicConstraints : Oid := [2, 5, 29, 19]

/-- `extKeyUsage`. -/
def idCeExtKeyUsage : Oid := [2, 5, 29, 37]

/-- The extensions that may be critical in a leaf. -/
def knownLeafExtensionOids : List Oid :=
  [idCeKeyUsage, idCeExtKeyUsage, idCeBasicConstraints, idCeSubjectAltName, sctListOid]

/-- The extensions that may be critical in an authority. -/
def knownCaCriticalExtensionOids : List Oid := [idCeKeyUsage, idCeBasicConstraints]

/-! ### Extensions -/

/-- The extensions, none if the field is absent. -/
def extensionsSlice (tbs : TbsCertificate) : List Extension := tbs.extensions.getD []

/-- No critical extension is unknown. -/
def rejectUnknownCriticalExtensions (extensions : List Extension) (known : List Oid) :
    Except Error Unit :=
  ensure (∀ ext ∈ extensions, ext.critical = true → ext.extnId ∈ known)
    (.certificate .unknownCriticalExtension)

/-- The one extension with the given identifier, if any; two are an error. -/
def findExtension (extensions : List Extension) (oid : Oid) : Except Error (Option Extension) :=
  match extensions.filter (·.extnId = oid) with
  | [] => .ok none
  | [ext] => .ok (some ext)
  | _ => .error (.certificate .duplicateExtension)

/-- The one extension of an identifier, decoded. -/
def findExtensionDecoded {α : Type} (decode : Bytes → Option α) (extensions : List Extension)
    (oid : Oid) : Except Error (Option α) := do
  match ← findExtension extensions oid with
  | none => pure none
  | some ext =>
    let decoded ← okOr (decode ext.extnValue)
      (.certificate (.invalidDer (.text "certificate extension value".toList)))
    pure (some decoded)

/-! ### Profiles -/

/-- `verify_leaf_profile`: the extensions a signing leaf must have. -/
def verifyLeafProfile (X : Externals) (leaf : X509Certificate) : Except Error Unit := do
  let extensions := extensionsSlice leaf.tbsCertificate
  rejectUnknownCriticalExtensions extensions knownLeafExtensionOids
  let bc ← findExtensionDecoded X.der.basicConstraints extensions idCeBasicConstraints
  ensure (∀ c ∈ bc, c.ca = false) (.certificate .invalidBasicConstraints)
  let keyUsage ← findExtensionDecoded X.der.keyUsage extensions idCeKeyUsage
  let keyUsage ← okOr keyUsage (.certificate .missingKeyUsage)
  ensure (keyUsage.digitalSignature = true) (.certificate .missingKeyUsage)
  let eku ← findExtensionDecoded X.der.extendedKeyUsage extensions idCeExtKeyUsage
  let eku ← okOr eku (.certificate .missingCodeSigningEku)
  ensure (idKpCodeSigning ∈ eku) (.certificate .missingCodeSigningEku)

/-- `subordinateCaCount` authorities stand between `cert` and the leaf. -/
def verifyCaProfile (X : Externals) (cert : X509Certificate) (subordinateCaCount : ℕ) :
    Except Error Unit := do
  let extensions := extensionsSlice cert.tbsCertificate
  rejectUnknownCriticalExtensions extensions knownCaCriticalExtensionOids
  let bc ← findExtensionDecoded X.der.basicConstraints extensions idCeBasicConstraints
  let bc ← okOr bc (.certificate .invalidBasicConstraints)
  ensure (bc.ca = true) (.certificate .invalidBasicConstraints)
  ensure (∀ max ∈ bc.pathLenConstraint, subordinateCaCount ≤ max.toNat)
    (.certificate .pathLengthExceeded)
  let keyUsage ← findExtensionDecoded X.der.keyUsage extensions idCeKeyUsage
  let keyUsage ← okOr keyUsage (.certificate .missingKeyUsage)
  ensure (keyUsage.keyCertSign = true) (.certificate .missingKeyUsage)

/-! ### Windows and signatures -/

/-- A trust-store window, half-open. -/
def withinValidFor (t : ℤ) (window : ValidityPeriod) : Prop :=
  window.start ≤ t ∧ ∀ e ∈ window.end_, t < e

instance (t : ℤ) (window : ValidityPeriod) : Decidable (withinValidFor t window) :=
  inferInstanceAs (Decidable (_ ∧ _))

/-- A certificate's window, closed at both ends. -/
def verifyTimeWindow (tbs : TbsCertificate) (authenticatedTime : ℤ) : Except Error Unit :=
  ensure (unixSeconds tbs.notBefore ≤ authenticatedTime ∧
      authenticatedTime ≤ unixSeconds tbs.notAfter)
    (.certificate .outsideCertificateValidity)

/-- The one algorithm a key of this curve may have signed with. -/
def EcdsaVerifyingKey.expectedOid : EcdsaVerifyingKey → Oid
  | .p256 _ => ecdsaWithSha256
  | .p384 _ => ecdsaWithSha384

/-- The child's signature, under the issuer's key and its algorithm. -/
def verifySignature (X : Externals) (child issuer : X509Certificate) : Except Error Unit := do
  let issuerSpkiDer ← okOr issuer.tbsCertificate.spkiDer invalidDer
  let issuerKey ← EcdsaVerifyingKey.fromSpkiDer X issuerSpkiDer
  ensure (child.signatureAlgorithm = issuerKey.expectedOid)
    (.certificate .unsupportedSignatureAlgorithm)
  let tbsDer ← okOr child.tbsCertificate.der invalidDer
  ensure (issuerKey.verifyDer X tbsDer child.signature) (.certificate .signatureInvalid)

/-! ### The chain -/

/-- A leaf whose chain was validated. -/
structure ValidatedLeaf where
  leaf : X509Certificate
  leafSpkiDer : Bytes
  issuerSpkiDer : Bytes
  chainLength : ℕ
  deriving DecidableEq

/-- The walk from `signee` over its issuers, the first of which has index `i`. -/
def walkChain (X : Externals) (authenticatedTime : ℤ) :
    X509Certificate → ℕ → List X509Certificate → Except Error Unit
  | _, _, [] => .ok ()
  | signee, i, issuer :: rest => do
    ensure (issuer.tbsCertificate.subject = signee.tbsCertificate.issuer)
      (.certificate .issuerNameMismatch)
    verifyTimeWindow issuer.tbsCertificate authenticatedTime
    verifyCaProfile X issuer i
    verifySignature X signee issuer
    walkChain X authenticatedTime issuer (i + 1) rest

/-- A certificate of the trust store. -/
def decodeCertificate (X : Externals) (derBytes : Bytes) : Except Error X509Certificate :=
  okOr (X.der.certificate derBytes) invalidDer

/-- `try_validate_against_ca`: `none` if the leaf does not name this authority. -/
def tryValidateAgainstCa (X : Externals) (leaf : X509Certificate) (ca : CertificateAuthority)
    (authenticatedTime : ℤ) : Except Error (Option ValidatedLeaf) := do
  let chain ← ca.certificates.mapM fun c => decodeCertificate X c.rawBytes
  match chain with
  | [] => pure none
  | directIssuer :: _ =>
    if directIssuer.tbsCertificate.subject ≠ leaf.tbsCertificate.issuer then pure none
    else do
      ensure (withinValidFor authenticatedTime ca.validFor) (.certificate .outsideCaValidity)
      verifyTimeWindow leaf.tbsCertificate authenticatedTime
      verifyLeafProfile X leaf
      walkChain X authenticatedTime leaf 0 chain
      let leafSpkiDer ← okOr leaf.tbsCertificate.spkiDer invalidDer
      let issuerSpkiDer ← okOr directIssuer.tbsCertificate.spkiDer invalidDer
      pure (some ⟨leaf, leafSpkiDer, issuerSpkiDer, chain.length⟩)

/-- The loop of `validate_chain`; `nameMatchedError` is the first failure so far. -/
def tryCandidates (X : Externals) (leaf : X509Certificate) (authenticatedTime : ℤ) :
    List CertificateAuthority → Option Error → Except Error ValidatedLeaf
  | [], nameMatchedError => .error (nameMatchedError.getD (.certificate .untrustedCertificate))
  | ca :: rest, nameMatchedError =>
    match tryValidateAgainstCa X leaf ca authenticatedTime with
    | .ok (some validated) => .ok validated
    | .ok none => tryCandidates X leaf authenticatedTime rest nameMatchedError
    | .error e => tryCandidates X leaf authenticatedTime rest (nameMatchedError.or (some e))

/-- `validate_chain`: the authorities in their order, at the authenticated time. -/
def validateChain (X : Externals) (leafDer : Bytes) (trustStore : TrustStore)
    (authenticatedTimeUnix : ℤ) : Except Error ValidatedLeaf := do
  let leaf ← okOr (X.der.certificate leafDer) invalidDer
  tryCandidates X leaf authenticatedTimeUnix trustStore.certificateAuthorities none

/-! ### What a valid path is -/

section Spec

variable {X : Externals} {t : ℤ}

/-- `oid` occurs at most once among the extensions, and `o` is the one occurrence. -/
def OnlyExtension (extensions : List Extension) (oid : Oid) : Option Extension → Prop
  | none => ∀ ext ∈ extensions, ext.extnId ≠ oid
  | some ext => ∃ before after, extensions = before ++ ext :: after ∧ ext.extnId = oid ∧
      ∀ other ∈ before ++ after, other.extnId ≠ oid

/-- The decoded value of the one extension that has the identifier. -/
def OnlyDecoded {α : Type} (decode : Bytes → Option α) (extensions : List Extension) (oid : Oid)
    (o : Option α) : Prop :=
  ∃ ext, OnlyExtension extensions oid ext ∧
    Option.Rel (fun ext value => decode ext.extnValue = some value) ext o

/-- No critical extension outside `known`. -/
def NoUnknownCritical (extensions : List Extension) (known : List Oid) : Prop :=
  ∀ ext ∈ extensions, ext.critical = true → ext.extnId ∈ known

/-- What `verify_leaf_profile` requires. -/
structure LeafProfile (X : Externals) (leaf : X509Certificate) : Prop where
  critical : NoUnknownCritical (extensionsSlice leaf.tbsCertificate) knownLeafExtensionOids
  /-- `basicConstraints` absent, or `CA:FALSE`. -/
  basicConstraints : ∃ bc, OnlyDecoded X.der.basicConstraints (extensionsSlice leaf.tbsCertificate)
    idCeBasicConstraints bc ∧ ∀ c ∈ bc, c.ca = false
  keyUsage : ∃ usage, OnlyDecoded X.der.keyUsage (extensionsSlice leaf.tbsCertificate)
    idCeKeyUsage (some usage) ∧ usage.digitalSignature = true
  extendedKeyUsage : ∃ purposes, OnlyDecoded X.der.extendedKeyUsage
    (extensionsSlice leaf.tbsCertificate) idCeExtKeyUsage (some purposes) ∧
    idKpCodeSigning ∈ purposes

/-- `i` authorities stand between the certificate and the leaf. -/
structure CaProfile (X : Externals) (cert : X509Certificate) (i : ℕ) : Prop where
  critical : NoUnknownCritical (extensionsSlice cert.tbsCertificate) knownCaCriticalExtensionOids
  basicConstraints : ∃ bc, OnlyDecoded X.der.basicConstraints (extensionsSlice cert.tbsCertificate)
    idCeBasicConstraints (some bc) ∧ bc.ca = true ∧ ∀ max ∈ bc.pathLenConstraint, i ≤ max.toNat
  keyUsage : ∃ usage, OnlyDecoded X.der.keyUsage (extensionsSlice cert.tbsCertificate)
    idCeKeyUsage (some usage) ∧ usage.keyCertSign = true

/-- A certificate's own window, inclusive. -/
def WithinCertificate (cert : X509Certificate) (t : ℤ) : Prop :=
  unixSeconds cert.tbsCertificate.notBefore ≤ t ∧ t ≤ unixSeconds cert.tbsCertificate.notAfter

/-- `issuer`'s key, of whichever curve, signed `child` with that curve's algorithm. -/
def SignedBy (X : Externals) (child issuer : X509Certificate) : Prop :=
  ∃ spkiDer key tbsDer, issuer.tbsCertificate.spkiDer = some spkiDer ∧
    EcdsaVerifyingKey.fromSpkiDer X spkiDer = .ok key ∧
    child.signatureAlgorithm = key.expectedOid ∧ child.tbsCertificate.der = some tbsDer ∧
    key.verifyDer X tbsDer child.signature = true

/-- `issuer`, the `i`-th authority above the leaf, issued `child`. -/
structure Issued (X : Externals) (t : ℤ) (i : ℕ) (child issuer : X509Certificate) : Prop where
  name : issuer.tbsCertificate.subject = child.tbsCertificate.issuer
  window : WithinCertificate issuer t
  profile : CaProfile X issuer i
  signature : SignedBy X child issuer

/-- Every link of the path `leaf, c₀, …, cₖ`, the `i`-th being that `cᵢ` issued its predecessor. -/
def PathIssued (X : Externals) (t : ℤ) (path : List X509Certificate) : Prop :=
  ∀ i child issuer, path[i]? = some child → path[i + 1]? = some issuer →
    Issued X t i child issuer

/-- The authority `ca`, whose chain is `c₀ :: rest`, vouches for `leaf` at time `t`, and `validated`
    is what is kept of it: the leaf with its key, `c₀`'s key and the length of the chain. -/
structure AnchoredBy (X : Externals) (leaf : X509Certificate) (ca : CertificateAuthority) (t : ℤ)
    (c₀ : X509Certificate) (rest : List X509Certificate) (validated : ValidatedLeaf) : Prop where
  decoded : List.Forall₂ (fun c cert => X.der.certificate c.rawBytes = some cert)
    ca.certificates (c₀ :: rest)
  caWindow : withinValidFor t ca.validFor
  leafWindow : WithinCertificate leaf t
  leafProfile : LeafProfile X leaf
  path : PathIssued X t (leaf :: c₀ :: rest)
  leaf_eq : validated.leaf = leaf
  leafSpki : leaf.tbsCertificate.spkiDer = some validated.leafSpkiDer
  issuerSpki : c₀.tbsCertificate.spkiDer = some validated.issuerSpkiDer
  chainLength : validated.chainLength = rest.length + 1

/-- The authority validates the leaf. -/
def Anchors (X : Externals) (leaf : X509Certificate) (ca : CertificateAuthority) (t : ℤ)
    (validated : ValidatedLeaf) : Prop :=
  ∃ c₀ rest, AnchoredBy X leaf ca t c₀ rest validated

/-! ### What the checks accept -/

/-- An extension is found only if it is there at most once. -/
theorem findExtension_eq_ok {extensions : List Extension} {oid : Oid} {o : Option Extension} :
    findExtension extensions oid = .ok o ↔ OnlyExtension extensions oid o := by
  have hnil (l : List Extension) : l.filter (·.extnId = oid) = [] ↔ ∀ e ∈ l, e.extnId ≠ oid := by
    simp [List.filter_eq_nil_iff]
  unfold findExtension
  -- by how many extensions have the identifier
  split
  · rename_i hfilter
    rw [hnil] at hfilter
    cases o with
    | none => simpa [OnlyExtension] using hfilter
    | some ext =>
      refine iff_of_false (by simp) ?_
      rintro ⟨before, after, rfl, hoid, -⟩
      exact hfilter ext (by simp) hoid
  · rename_i ext hfilter
    obtain ⟨before, after, rfl, hbefore, hoid, hafter⟩ := List.filter_eq_cons_iff.mp hfilter
    rw [hnil] at hafter
    have hoid : ext.extnId = oid := by simpa using hoid
    have hbefore : ∀ e ∈ before, e.extnId ≠ oid := by simpa using hbefore
    cases o with
    | none => exact iff_of_false (by simp) fun h => h ext (by simp) hoid
    | some other =>
      constructor
      · intro h
        obtain rfl : ext = other := Option.some.inj (Except.ok.inj h)
        exact ⟨before, after, rfl, hoid, List.forall_mem_append.mpr ⟨hbefore, hafter⟩⟩
      · -- both splittings have the same matches
        intro h
        obtain ⟨before', after', heq, hother, hnone⟩ := h
        have hfilter' := congrArg (List.filter (·.extnId = oid)) heq
        have ⟨hb, ha⟩ := List.forall_mem_append.mp hnone
        simp [List.filter_append, (hnil _).mpr hb, (hnil _).mpr ha, (hnil _).mpr hbefore,
          (hnil _).mpr hafter, hoid, hother] at hfilter'
        rw [hfilter']
  · rename_i hnone hone
    refine iff_of_false (by simp) fun h => ?_
    cases o with
    | none => exact hnone ((hnil _).mpr h)
    | some ext =>
      obtain ⟨before, after, rfl, hoid, hrest⟩ := h
      have ⟨hb, ha⟩ := List.forall_mem_append.mp hrest
      exact hone ext (by simp [(hnil _).mpr hb, (hnil _).mpr ha, hoid])

/-- A decoded extension is the only one, and it decodes. -/
theorem findExtensionDecoded_eq_ok {α : Type} {decode : Bytes → Option α}
    {extensions : List Extension} {oid : Oid} {o : Option α} :
    findExtensionDecoded decode extensions oid = .ok o ↔
      OnlyDecoded decode extensions oid o := by
  simp only [findExtensionDecoded, bind_eq_ok, findExtension_eq_ok, OnlyDecoded]
  refine exists_congr fun ext => and_congr_right fun _ => ?_
  cases ext with
  | none => cases o <;> simp
  | some ext => cases o <;> simp [bind_eq_ok]

/-- The check passes if no critical extension is unknown. -/
theorem rejectUnknownCriticalExtensions_eq_ok {extensions : List Extension} {known : List Oid}
    {u : Unit} : rejectUnknownCriticalExtensions extensions known = .ok u ↔
      NoUnknownCritical extensions known := ensure_eq_ok

/-- The leaf's profile is checked just as stated. -/
theorem verifyLeafProfile_eq_ok {leaf : X509Certificate} {u : Unit} :
    verifyLeafProfile X leaf = .ok u ↔ LeafProfile X leaf := by
  simp only [verifyLeafProfile, bind_eq_ok, rejectUnknownCriticalExtensions_eq_ok,
    findExtensionDecoded_eq_ok, okOr_eq_ok, ensure_eq_ok]
  constructor
  · intro h
    obtain ⟨_, hcritical, bc, hbc, _, hca, _, husage, usage, rfl, _, hsign, _, heku, eku, rfl,
      hcode⟩ := h
    exact ⟨hcritical, ⟨bc, hbc, hca⟩, ⟨usage, husage, hsign⟩, ⟨eku, heku, hcode⟩⟩
  · intro h
    obtain ⟨hcritical, ⟨bc, hbc, hca⟩, ⟨usage, husage, hsign⟩, ⟨eku, heku, hcode⟩⟩ := h
    exact ⟨(), hcritical, bc, hbc, (), hca, _, husage, usage, rfl, (), hsign, _, heku, eku, rfl,
      hcode⟩

/-- An authority's profile is checked just as stated. -/
theorem verifyCaProfile_eq_ok {cert : X509Certificate} {i : ℕ} {u : Unit} :
    verifyCaProfile X cert i = .ok u ↔ CaProfile X cert i := by
  simp only [verifyCaProfile, bind_eq_ok, rejectUnknownCriticalExtensions_eq_ok,
    findExtensionDecoded_eq_ok, okOr_eq_ok, ensure_eq_ok]
  constructor
  · intro h
    obtain ⟨_, hcritical, _, hbc, bc, rfl, _, hca, _, hlen, _, husage, usage, rfl, hsign⟩ := h
    exact ⟨hcritical, ⟨bc, hbc, hca, hlen⟩, ⟨usage, husage, hsign⟩⟩
  · intro h
    obtain ⟨hcritical, ⟨bc, hbc, hca, hlen⟩, ⟨usage, husage, hsign⟩⟩ := h
    exact ⟨(), hcritical, _, hbc, bc, rfl, (), hca, (), hlen, _, husage, usage, rfl, hsign⟩

/-- The window includes both of its ends. -/
theorem verifyTimeWindow_eq_ok {cert : X509Certificate} {u : Unit} :
    verifyTimeWindow cert.tbsCertificate t = .ok u ↔ WithinCertificate cert t := ensure_eq_ok

/-- The signature is checked just as stated. -/
theorem verifySignature_eq_ok {child issuer : X509Certificate} {u : Unit} :
    verifySignature X child issuer = .ok u ↔ SignedBy X child issuer := by
  simp only [verifySignature, bind_eq_ok, okOr_eq_ok, ensure_eq_ok, SignedBy]
  constructor
  · intro h
    obtain ⟨spkiDer, hspki, key, hkey, _, halgorithm, tbsDer, htbs, hverify⟩ := h
    exact ⟨spkiDer, key, tbsDer, hspki, hkey, halgorithm, htbs, hverify⟩
  · intro h
    obtain ⟨spkiDer, key, tbsDer, hspki, hkey, halgorithm, htbs, hverify⟩ := h
    exact ⟨spkiDer, hspki, key, hkey, (), halgorithm, tbsDer, htbs, hverify⟩

/-! ### The walk -/

/-- The links of a path whose first issuer is the `i`-th authority above the leaf. -/
def PathIssuedFrom (X : Externals) (t : ℤ) (i : ℕ) (path : List X509Certificate) : Prop :=
  ∀ j child issuer, path[j]? = some child → path[j + 1]? = some issuer →
    Issued X t (i + j) child issuer

/-- A path is issued link by link. -/
theorem pathIssuedFrom_cons {signee issuer : X509Certificate} {rest : List X509Certificate}
    {i : ℕ} : PathIssuedFrom X t i (signee :: issuer :: rest) ↔
      Issued X t i signee issuer ∧ PathIssuedFrom X t (i + 1) (issuer :: rest) := by
  constructor
  · intro h
    refine ⟨h 0 signee issuer rfl rfl, fun j child parent hchild hparent => ?_⟩
    have hlink := h (j + 1) child parent (by simpa using hchild) (by simpa using hparent)
    rwa [Nat.add_right_comm, Nat.add_assoc]
  · intro h j child parent hchild hparent
    obtain ⟨hfirst, hrest⟩ := h
    cases j with
    | zero =>
      -- the first link
      obtain rfl : signee = child := by simpa using hchild
      obtain rfl : issuer = parent := by simpa using hparent
      exact hfirst
    | succ j =>
      -- a link of the rest, whose issuers are counted from one higher
      have hlink := hrest j child parent (by simpa using hchild) (by simpa using hparent)
      rwa [Nat.add_right_comm, Nat.add_assoc] at hlink

/-- The walk succeeds on an issued path. -/
theorem walkChain_eq_ok {signee : X509Certificate} {i : ℕ} {chain : List X509Certificate}
    {u : Unit} :
    walkChain X t signee i chain = .ok u ↔ PathIssuedFrom X t i (signee :: chain) := by
  induction chain generalizing signee i with
  | nil =>
    -- a path of one certificate has no link
    refine iff_of_true rfl fun j child issuer _ hissuer => ?_
    simp at hissuer
  | cons issuer rest ih =>
    rw [walkChain, pathIssuedFrom_cons]
    simp only [bind_eq_ok, ensure_eq_ok, verifyTimeWindow_eq_ok, verifyCaProfile_eq_ok,
      verifySignature_eq_ok, ih]
    constructor
    · intro h
      obtain ⟨_, hname, _, hwindow, _, hprofile, _, hsignature, hrest⟩ := h
      exact ⟨⟨hname, hwindow, hprofile, hsignature⟩, hrest⟩
    · intro h
      obtain ⟨⟨hname, hwindow, hprofile, hsignature⟩, hrest⟩ := h
      exact ⟨(), hname, (), hwindow, (), hprofile, (), hsignature, hrest⟩

/-- The indexed and the recursive statement of a path agree. -/
theorem pathIssued_iff {path : List X509Certificate} :
    PathIssued X t path ↔ PathIssuedFrom X t 0 path := by
  simp [PathIssued, PathIssuedFrom]

/-! ### Candidates -/

/-- An authority validates a leaf exactly if it anchors it. -/
theorem tryValidateAgainstCa_eq_some {leaf : X509Certificate} {ca : CertificateAuthority}
    {validated : ValidatedLeaf} :
    tryValidateAgainstCa X leaf ca t = .ok (some validated) ↔ Anchors X leaf ca t validated := by
  simp only [tryValidateAgainstCa, decodeCertificate, bind_eq_ok, mapM_eq_ok, okOr_eq_ok]
  constructor
  · intro h
    obtain ⟨chain, hdecoded, h⟩ := h
    cases chain with
    | nil => simp at h
    | cons c₀ rest =>
      dsimp only at h
      split at h
      · -- not named, and passed over
        simp at h
      · simp only [bind_eq_ok, ensure_eq_ok, verifyTimeWindow_eq_ok, verifyLeafProfile_eq_ok,
          walkChain_eq_ok, okOr_eq_ok, pure_eq_ok, Except.ok.injEq, Option.some.injEq] at h
        obtain ⟨_, hca, _, hleaf, _, hprofile, _, hwalk, leafSpki, hleafSpki, issuerSpki,
          hissuerSpki, rfl⟩ := h
        exact ⟨c₀, rest, hdecoded, hca, hleaf, hprofile, pathIssued_iff.mpr hwalk, rfl, hleafSpki,
          hissuerSpki, rfl⟩
  · intro h
    obtain ⟨c₀, rest, h⟩ := h
    refine ⟨c₀ :: rest, h.decoded, ?_⟩
    -- the gate is the name condition of the path's first link
    have hname : c₀.tbsCertificate.subject = leaf.tbsCertificate.issuer :=
      (h.path 0 leaf c₀ rfl rfl).name
    dsimp only
    rw [if_neg (not_not.mpr hname)]
    simp only [bind_eq_ok, ensure_eq_ok, verifyTimeWindow_eq_ok, verifyLeafProfile_eq_ok,
      walkChain_eq_ok, okOr_eq_ok, pure_eq_ok, Except.ok.injEq, Option.some.injEq]
    refine ⟨(), h.caWindow, (), h.leafWindow, (), h.leafProfile, (), pathIssued_iff.mp h.path, _,
      h.leafSpki, _, h.issuerSpki, ?_⟩
    obtain ⟨_, _, _, _⟩ := validated
    simpa [← h.leaf_eq] using h.chainLength.symm

/-- The loop returns the first success, whatever failed before it. -/
theorem tryCandidates_eq_ok {leaf : X509Certificate} {cas : List CertificateAuthority}
    {e : Option Error} {validated : ValidatedLeaf} :
    tryCandidates X leaf t cas e = .ok validated ↔
      ∃ before ca after, cas = before ++ ca :: after ∧ Anchors X leaf ca t validated ∧
        ∀ earlier ∈ before, ∀ other, ¬ Anchors X leaf earlier t other := by
  induction cas generalizing e with
  | nil => simp [tryCandidates]
  | cons ca rest ih =>
    have hanchors (o : Option ValidatedLeaf) (other : ValidatedLeaf)
        (h : tryValidateAgainstCa X leaf ca t = .ok o) : Anchors X leaf ca t other ↔ o = other := by
      rw [← tryValidateAgainstCa_eq_some, h, Except.ok.injEq]
    rw [first_cons_iff]
    unfold tryCandidates
    split
    · -- the first success ends the search
      rename_i found hfound
      simp only [hanchors _ _ hfound, Except.ok.injEq, Option.some.injEq]
      constructor
      · exact .inl
      · intro h
        exact h.resolve_right fun h => h.1 found rfl
    · -- the candidate is passed over
      rename_i hnone
      simp [ih, hanchors _ _ hnone]
    · -- the error is kept, and the search goes on
      rename_i err herr
      have hno : ∀ other, ¬ Anchors X leaf ca t other := by
        intro other h
        rw [← tryValidateAgainstCa_eq_some, herr] at h
        cases h
      simp [ih, hno]

/-- The first authority that anchors the leaf validates it. -/
theorem validateChain_eq_ok {leafDer : Bytes} {trustStore : TrustStore}
    {validated : ValidatedLeaf} :
    validateChain X leafDer trustStore t = .ok validated ↔
      ∃ leaf, X.der.certificate leafDer = some leaf ∧ ∃ before ca after,
        trustStore.certificateAuthorities = before ++ ca :: after ∧
        Anchors X leaf ca t validated ∧
        ∀ earlier ∈ before, ∀ other, ¬ Anchors X leaf earlier t other := by
  simp only [validateChain, bind_eq_ok, okOr_eq_ok, tryCandidates_eq_ok]

/-- **Path validation is exact.**  It succeeds precisely when the leaf decodes and some authority of
    the trust store anchors it, and what it returns is of such an authority. -/
theorem validateChain_spec (X : Externals) (leafDer : Bytes) (trustStore : TrustStore) (t : ℤ) :
    ((∃ validated, validateChain X leafDer trustStore t = .ok validated) ↔
      ∃ leaf, X.der.certificate leafDer = some leaf ∧
        ∃ ca ∈ trustStore.certificateAuthorities, ∃ validated, Anchors X leaf ca t validated) ∧
    ∀ validated, validateChain X leafDer trustStore t = .ok validated →
      ∃ leaf, X.der.certificate leafDer = some leaf ∧
        ∃ ca ∈ trustStore.certificateAuthorities, Anchors X leaf ca t validated := by
  have hsound : ∀ validated, validateChain X leafDer trustStore t = .ok validated →
      ∃ leaf, X.der.certificate leafDer = some leaf ∧
        ∃ ca ∈ trustStore.certificateAuthorities, Anchors X leaf ca t validated := by
    intro validated h
    obtain ⟨leaf, hleaf, before, ca, after, hcas, hanchors, -⟩ := validateChain_eq_ok.mp h
    exact ⟨leaf, hleaf, ca, by simp [hcas], hanchors⟩
  refine ⟨⟨?_, ?_⟩, hsound⟩
  · intro h
    obtain ⟨validated, h⟩ := h
    obtain ⟨leaf, hleaf, ca, hca, hanchors⟩ := hsound validated h
    exact ⟨leaf, hleaf, ca, hca, validated, hanchors⟩
  · -- of the authorities that anchor the leaf, the loop stops at the first
    intro h
    obtain ⟨leaf, hleaf, hsome⟩ := h
    obtain ⟨before, ca, after, hcas, ⟨validated, hanchors⟩, hbefore⟩ :=
      exists_first hsome
    exact ⟨validated, validateChain_eq_ok.mpr ⟨leaf, hleaf, before, ca, after, hcas, hanchors,
      fun earlier hearlier other h => hbefore earlier hearlier ⟨other, h⟩⟩⟩

end Spec

end AttestationVerify
