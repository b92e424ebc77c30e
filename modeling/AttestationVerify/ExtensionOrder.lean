import AttestationVerify.Fulcio

namespace AttestationVerify

open Wire

/-!
# The order of a certificate's extensions

Profiles and identity claims are read off a certificate's extensions one identifier at a time.

* `Rearranged` — the extensions in another order, with others nobody asks for among them;
* `extensionOrder_spec` — neither profile and no claim tells two such lists apart; a claim is the
  value of the one extension with its identifier.
-/

/-- The identifiers the crate looks up. -/
def lookedUpOids : List Oid := knownLeafExtensionOids ++ (List.range' 8 14).map fulcioOid

/-- A non-critical extension that is never looked up. -/
def Irrelevant (ext : Extension) : Prop := ext.critical = false ∧ ext.extnId ∉ lookedUpOids

/-- `extensions'` is `extensions` in some order, irrelevant ones added. -/
def Rearranged (extensions extensions' : List Extension) : Prop :=
  ∃ added, (∀ ext ∈ added, Irrelevant ext) ∧ extensions'.Perm (added ++ extensions)

section

variable {X : Externals} {extensions extensions' : List Extension} {oid : Oid}

/-! ### Lookups -/

/-- What is found under an identifier depends on the extensions with it, in whatever order. -/
theorem findExtension_congr
    (h : (extensions'.filter (·.extnId = oid)).Perm (extensions.filter (·.extnId = oid))) :
    findExtension extensions' oid = findExtension extensions oid := by
  unfold findExtension
  generalize extensions'.filter (·.extnId = oid) = found' at h
  generalize extensions.filter (·.extnId = oid) = found at h
  cases found with
  -- none stays none, and one is the same one
  | nil => rw [List.perm_nil.mp h]
  | cons ext rest =>
    cases rest with
    | nil => rw [List.perm_singleton.mp h]
    | cons other rest =>
      -- two or more in either order are too many
      have hlength := h.length_eq
      match found' with
      | [] => cases hlength
      | [_] => cases hlength
      | _ :: _ :: _ => rfl

/-- A looked-up extension is found in either list. -/
theorem Rearranged.findExtension (h : Rearranged extensions extensions')
    (hoid : oid ∈ lookedUpOids) :
    findExtension extensions' oid = findExtension extensions oid := by
  obtain ⟨added, hadded, hperm⟩ := h
  apply findExtension_congr
  -- what was added has none of the identifiers that are looked up
  have hnone : added.filter (·.extnId = oid) = [] := by
    rw [List.filter_eq_nil_iff]
    intro ext hext heq
    exact (hadded ext hext).2 (of_decide_eq_true heq ▸ hoid)
  have hfilter := hperm.filter (·.extnId = oid)
  rwa [List.filter_append, hnone, List.nil_append] at hfilter

/-- The decoded value of a looked-up extension is the same in either list. -/
theorem Rearranged.findExtensionDecoded {α : Type} {decode : Bytes → Option α}
    (h : Rearranged extensions extensions') (hoid : oid ∈ lookedUpOids) :
    findExtensionDecoded decode extensions' oid = findExtensionDecoded decode extensions oid := by
  rw [AttestationVerify.findExtensionDecoded, h.findExtension hoid]
  rfl

/-- No irrelevant extension is critical. -/
theorem Rearranged.noUnknownCritical (h : Rearranged extensions extensions') (known : List Oid) :
    NoUnknownCritical extensions' known ↔ NoUnknownCritical extensions known := by
  obtain ⟨added, hadded, hperm⟩ := h
  -- what was added is not critical
  have hnone : NoUnknownCritical added known := by
    intro ext hext hcritical
    rw [(hadded ext hext).1] at hcritical
    cases hcritical
  unfold NoUnknownCritical at hnone ⊢
  simp only [hperm.mem_iff]
  rw [List.forall_mem_append]
  exact and_iff_right hnone

/-- Whether a critical extension is unknown does not depend on the order. -/
theorem Rearranged.rejectUnknownCriticalExtensions {known : List Oid}
    (h : Rearranged extensions extensions') :
    rejectUnknownCriticalExtensions extensions' known =
      rejectUnknownCriticalExtensions extensions known := by
  have hiff := h.noUnknownCritical known
  unfold NoUnknownCritical at hiff
  simp only [AttestationVerify.rejectUnknownCriticalExtensions, hiff]

/-! ### Profiles and claims -/

/-- A claim is the same in either list. -/
theorem Rearranged.extractUtf8Claim (h : Rearranged extensions extensions')
    (hoid : oid ∈ lookedUpOids) :
    extractUtf8Claim X extensions' oid = extractUtf8Claim X extensions oid := by
  rw [AttestationVerify.extractUtf8Claim, h.findExtension hoid]
  rfl

/-- The SAN is the same in either list. -/
theorem Rearranged.extractSanUri (h : Rearranged extensions extensions') :
    extractSanUri X extensions' = extractSanUri X extensions := by
  rw [AttestationVerify.extractSanUri, h.findExtension (by decide)]
  rfl

/-- The leaf's profile reads its extensions by identifier only. -/
theorem verifyLeafProfile_congr {leaf leaf' : X509Certificate}
    (h : Rearranged (extensionsSlice leaf.tbsCertificate) (extensionsSlice leaf'.tbsCertificate)) :
    verifyLeafProfile X leaf' = verifyLeafProfile X leaf := by
  unfold verifyLeafProfile
  simp only [h.rejectUnknownCriticalExtensions,
    h.findExtensionDecoded (show idCeBasicConstraints ∈ lookedUpOids by decide),
    h.findExtensionDecoded (show idCeKeyUsage ∈ lookedUpOids by decide),
    h.findExtensionDecoded (show idCeExtKeyUsage ∈ lookedUpOids by decide)]

/-- An authority's profile reads its extensions by identifier only. -/
theorem verifyCaProfile_congr {cert cert' : X509Certificate}
    (h : Rearranged (extensionsSlice cert.tbsCertificate) (extensionsSlice cert'.tbsCertificate))
    (subordinateCaCount : ℕ) :
    verifyCaProfile X cert' subordinateCaCount = verifyCaProfile X cert subordinateCaCount := by
  unfold verifyCaProfile
  simp only [h.rejectUnknownCriticalExtensions,
    h.findExtensionDecoded (show idCeBasicConstraints ∈ lookedUpOids by decide),
    h.findExtensionDecoded (show idCeKeyUsage ∈ lookedUpOids by decide)]

/-- Fulcio's identifiers are among those looked up. -/
theorem fulcioOid_mem_lookedUpOids {n : ℕ} (h : 8 ≤ n) (h' : n ≤ 21) :
    fulcioOid n ∈ lookedUpOids := by
  apply List.mem_append_right
  exact List.mem_map_of_mem (List.mem_range'_1.mpr ⟨h, by omega⟩)

/-- All claims are the same under rearranged extensions. -/
theorem extractClaims_congr {validated validated' : ValidatedLeaf}
    (h : Rearranged (extensionsSlice validated.leaf.tbsCertificate)
      (extensionsSlice validated'.leaf.tbsCertificate)) :
    extractClaims X validated' = extractClaims X validated := by
  have hclaim (n : ℕ) (hn : 8 ≤ n) (hn' : n ≤ 21) :=
    h.extractUtf8Claim (X := X) (fulcioOid_mem_lookedUpOids hn hn')
  unfold extractClaims
  simp (disch := decide) only [h.extractSanUri, hclaim]

/-! ### What the claims are -/

/-- The first URI among some names. -/
def firstUri : List GeneralName → Option Str
  | [] => none
  | .uniformResourceIdentifier uri :: _ => some uri
  | .other _ _ :: names => firstUri names

/-- The search of `extract_san_uri`, whose closure keeps the URIs. -/
theorem findSome?_eq_firstUri {f : GeneralName → Option Str}
    (huri : ∀ uri, f (.uniformResourceIdentifier uri) = some uri)
    (hother : ∀ tag value, f (.other tag value) = none) (names : List GeneralName) :
    names.findSome? f = firstUri names := by
  induction names with
  | nil => rfl
  | cons name names ih =>
    cases name with
    | uniformResourceIdentifier uri => rw [List.findSome?_cons, huri, firstUri]
    | other tag value => rw [List.findSome?_cons, hother, firstUri, ih]

/-- A claim is read from the one extension of its identifier. -/
theorem extractUtf8Claim_eq_ok {claim : Option Str} :
    extractUtf8Claim X extensions oid = .ok claim ↔
      OnlyDecoded X.der.utf8String extensions oid claim := by
  simp only [extractUtf8Claim, bind_eq_ok, findExtension_eq_ok, OnlyDecoded]
  refine exists_congr fun ext => and_congr_right fun _ => ?_
  cases ext with
  | none => cases claim <;> simp
  | some ext => cases claim <;> simp [bind_eq_ok]

/-- The SAN is the first URI of the one such extension. -/
theorem extractSanUri_eq_ok {uri : Option Str} :
    extractSanUri X extensions = .ok uri ↔
      ∃ names, OnlyDecoded X.der.subjectAltName extensions idCeSubjectAltName names ∧
        uri = names.bind firstUri := by
  simp only [extractSanUri, bind_eq_ok, findExtension_eq_ok]
  constructor
  · intro h
    obtain ⟨ext, honly, h⟩ := h
    cases ext with
    | none =>
      refine ⟨none, ⟨none, honly, .none⟩, ?_⟩
      exact (Except.ok.inj h).symm
    | some ext =>
      simp only [bind_eq_ok, okOr_eq_ok] at h
      obtain ⟨names, hnames, h⟩ := h
      refine ⟨some names, ⟨some ext, honly, .some hnames⟩, ?_⟩
      apply (Except.ok.inj h).symm.trans
      exact findSome?_eq_firstUri (fun _ => rfl) (fun _ _ => rfl) names
  · intro h
    obtain ⟨names, ⟨ext, honly, hrel⟩, rfl⟩ := h
    refine ⟨ext, honly, ?_⟩
    cases hrel with
    | none => rfl
    | @some ext names hnames =>
      simp only [bind_eq_ok, okOr_eq_ok]
      refine ⟨names, hnames, congrArg Except.ok ?_⟩
      exact findSome?_eq_firstUri (fun _ => rfl) (fun _ _ => rfl) names

/-- Each claim is the value of the one extension with its identifier, and absent when there is none;
    that of the subject's alternative names is the first URI among them. -/
structure ClaimsRead (X : Externals) (extensions : List Extension) (claims : FulcioClaims) :
    Prop where
  sanUri : ∃ names, OnlyDecoded X.der.subjectAltName extensions idCeSubjectAltName names ∧
    claims.sanUri = names.bind firstUri
  issuer : OnlyDecoded X.der.utf8String extensions (fulcioOid 8) claims.issuer
  buildSignerUri : OnlyDecoded X.der.utf8String extensions (fulcioOid 9) claims.buildSignerUri
  buildSignerDigest :
    OnlyDecoded X.der.utf8String extensions (fulcioOid 10) claims.buildSignerDigest
  runnerEnvironment :
    OnlyDecoded X.der.utf8String extensions (fulcioOid 11) claims.runnerEnvironment
  sourceRepositoryUri :
    OnlyDecoded X.der.utf8String extensions (fulcioOid 12) claims.sourceRepositoryUri
  sourceRepositoryDigest :
    OnlyDecoded X.der.utf8String extensions (fulcioOid 13) claims.sourceRepositoryDigest
  sourceRepositoryRef :
    OnlyDecoded X.der.utf8String extensions (fulcioOid 14) claims.sourceRepositoryRef
  sourceRepositoryId :
    OnlyDecoded X.der.utf8String extensions (fulcioOid 15) claims.sourceRepositoryId
  sourceRepositoryOwnerUri :
    OnlyDecoded X.der.utf8String extensions (fulcioOid 16) claims.sourceRepositoryOwnerUri
  sourceRepositoryOwnerId :
    OnlyDecoded X.der.utf8String extensions (fulcioOid 17) claims.sourceRepositoryOwnerId
  buildConfigUri : OnlyDecoded X.der.utf8String extensions (fulcioOid 18) claims.buildConfigUri
  buildConfigDigest :
    OnlyDecoded X.der.utf8String extensions (fulcioOid 19) claims.buildConfigDigest
  buildTrigger : OnlyDecoded X.der.utf8String extensions (fulcioOid 20) claims.buildTrigger
  runInvocationUri :
    OnlyDecoded X.der.utf8String extensions (fulcioOid 21) claims.runInvocationUri

/-- The claims are read one by one, each from its own extension. -/
theorem extractClaims_eq_ok {validated : ValidatedLeaf} {claims : FulcioClaims} :
    extractClaims X validated = .ok claims ↔
      ClaimsRead X (extensionsSlice validated.leaf.tbsCertificate) claims := by
  simp only [extractClaims, bind_eq_ok, extractUtf8Claim_eq_ok, extractSanUri_eq_ok, pure_eq_ok,
    Except.ok.injEq]
  constructor
  · intro h
    -- the claims are read in the order of the fields, one extension each
    obtain ⟨_, hsan, _, h8, _, h9, _, h10, _, h11, _, h12, _, h13, _, h14, _, h15, _, h16, _, h17,
      _, h18, _, h19, _, h20, _, h21, rfl⟩ := h
    exact ⟨hsan, h8, h9, h10, h11, h12, h13, h14, h15, h16, h17, h18, h19, h20, h21⟩
  · intro h
    exact ⟨_, h.sanUri, _, h.issuer, _, h.buildSignerUri, _, h.buildSignerDigest, _,
      h.runnerEnvironment, _, h.sourceRepositoryUri, _, h.sourceRepositoryDigest, _,
      h.sourceRepositoryRef, _, h.sourceRepositoryId, _, h.sourceRepositoryOwnerUri, _,
      h.sourceRepositoryOwnerId, _, h.buildConfigUri, _, h.buildConfigDigest, _, h.buildTrigger, _,
      h.runInvocationUri, rfl⟩

/-- The identifiers a claim is read from. -/
def claimOids : List Oid := idCeSubjectAltName :: (List.range' 8 14).map fulcioOid

/-- Each claim that is read has one extension at most. -/
theorem ClaimsRead.exists_only {claims : FulcioClaims} (h : ClaimsRead X extensions claims)
    (hoid : oid ∈ claimOids) : ∃ ext, OnlyExtension extensions oid ext := by
  have hdecoded {α : Type} {decode : Bytes → Option α} {oid : Oid} {o : Option α}
      (hd : OnlyDecoded decode extensions oid o) : ∃ ext, OnlyExtension extensions oid ext := by
    obtain ⟨ext, honly, -⟩ := hd
    exact ⟨ext, honly⟩
  -- one case for each identifier, in the order of `claimOids`
  obtain ⟨names, hnames, -⟩ := h.sanUri
  simp only [claimOids, List.range', List.map_cons, List.map_nil, List.mem_cons, List.not_mem_nil,
    or_false] at hoid
  rcases hoid with rfl | rfl | rfl | rfl | rfl | rfl | rfl | rfl | rfl | rfl | rfl | rfl | rfl |
    rfl | rfl
  · exact hdecoded hnames
  · exact hdecoded h.issuer
  · exact hdecoded h.buildSignerUri
  · exact hdecoded h.buildSignerDigest
  · exact hdecoded h.runnerEnvironment
  · exact hdecoded h.sourceRepositoryUri
  · exact hdecoded h.sourceRepositoryDigest
  · exact hdecoded h.sourceRepositoryRef
  · exact hdecoded h.sourceRepositoryId
  · exact hdecoded h.sourceRepositoryOwnerUri
  · exact hdecoded h.sourceRepositoryOwnerId
  · exact hdecoded h.buildConfigUri
  · exact hdecoded h.buildConfigDigest
  · exact hdecoded h.buildTrigger
  · exact hdecoded h.runInvocationUri

/-- At most one extension has the identifier. -/
theorem OnlyExtension.length_le_one {ext : Option Extension}
    (h : OnlyExtension extensions oid ext) :
    (extensions.filter (·.extnId = oid)).length ≤ 1 := by
  -- two occurrences would make the lookup fail
  have hfind := findExtension_eq_ok.mpr h
  unfold AttestationVerify.findExtension at hfind
  generalize extensions.filter (·.extnId = oid) = found at hfind
  match found with
  | [] => exact Nat.zero_le 1
  | [_] => exact Nat.le_refl 1
  | _ :: _ :: _ => cases hfind

/-- A permutation is a rearrangement. -/
theorem Rearranged.of_perm (h : extensions'.Perm extensions) : Rearranged extensions extensions' :=
  ⟨[], by simp, h⟩

/-- The insertion of an extension that nothing looks up is a rearrangement. -/
theorem Rearranged.of_insert {before after : List Extension} {ext : Extension}
    (h : Irrelevant ext) : Rearranged (before ++ after) (before ++ ext :: after) :=
  ⟨[ext], by simpa using h, List.perm_middle⟩

end

/-- **The order of the extensions does not matter**, nor do non-critical ones that are never looked
    up: both profiles and the claims come out the same, errors included.  Where there are claims,
    each is read off the one extension with its identifier. -/
theorem extensionOrder_spec (X : Externals) :
    (∀ extensions extensions' : List Extension, extensions'.Perm extensions →
      Rearranged extensions extensions') ∧
    (∀ before after ext, Irrelevant ext →
      Rearranged (before ++ after) (before ++ ext :: after)) ∧
    (∀ leaf leaf' : X509Certificate,
      Rearranged (extensionsSlice leaf.tbsCertificate) (extensionsSlice leaf'.tbsCertificate) →
      verifyLeafProfile X leaf' = verifyLeafProfile X leaf ∧
      (∀ subordinateCaCount, verifyCaProfile X leaf' subordinateCaCount =
        verifyCaProfile X leaf subordinateCaCount) ∧
      ∀ validated validated' : ValidatedLeaf, validated.leaf = leaf → validated'.leaf = leaf' →
        extractClaims X validated' = extractClaims X validated) ∧
    (∀ validated claims, extractClaims X validated = .ok claims ↔
      ClaimsRead X (extensionsSlice validated.leaf.tbsCertificate) claims) ∧
    ∀ validated, ∀ oid ∈ claimOids,
      2 ≤ ((extensionsSlice validated.leaf.tbsCertificate).filter (·.extnId = oid)).length →
      ∀ claims, extractClaims X validated ≠ .ok claims := by
  refine ⟨fun _ _ => .of_perm, fun _ _ _ => .of_insert, ?_, fun _ _ => extractClaims_eq_ok, ?_⟩
  · intro leaf leaf' h
    refine ⟨verifyLeafProfile_congr h, verifyCaProfile_congr h, ?_⟩
    intro validated validated' hleaf hleaf'
    subst hleaf hleaf'
    exact extractClaims_congr h
  · intro validated oid hoid htwo claims hclaims
    obtain ⟨ext, honly⟩ := (extractClaims_eq_ok.mp hclaims).exists_only hoid
    have hone := honly.length_le_one
    omega

end AttestationVerify
