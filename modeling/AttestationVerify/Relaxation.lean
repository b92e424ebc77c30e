import AttestationVerify.OriginPolicy
import AttestationVerify.Rekor.Agreement
import AttestationVerify.Wire.GlobOrder

namespace AttestationVerify

open Wire

/-!
# Policies in order

When one policy accepts all that another does, and what a verifier may be changed to without
losing what it accepted.

* `refPolicy_covers_iff` — ref policies: the matcher decides which of two is the wider;
* `githubPolicy_meetable_iff` — which policies anything satisfies at all;
* `githubPolicy_covers_iff` — of those, one is wider than another exactly part by part;
* `Verifier.verifyDigest_mono` — trust roots added at the end, origins granted and policies relaxed
  leave every accepted bundle accepted, with the same report.
-/

/-! ### Refs -/

/-- Every ref the first policy allows the second allows. -/
def RefPolicy.Covers (policy policy' : RefPolicy) : Prop :=
  ∀ ref, SatisfiesRef ref policy → SatisfiesRef ref policy'

/-- A glob is about characters. -/
theorem satisfiesRef_glob {ref pattern : Str} :
    SatisfiesRef ref (.glob pattern) ↔ Glob.Matches '*' pattern ref :=
  Glob.matches_utf8_iff (by decide)

/-- Every ref policy allows some ref: its own text. -/
theorem exists_satisfiesRef (policy : RefPolicy) : ∃ ref, SatisfiesRef ref policy := by
  cases policy with
  | exact ref => exact ⟨ref, rfl⟩
  | glob pattern => exact ⟨pattern, satisfiesRef_glob.mpr (Glob.matches_refl pattern)⟩

/-- An exact policy is covered by what accepts its ref. -/
theorem covers_exact_iff {ref : Str} {policy : RefPolicy} :
    (RefPolicy.exact ref).Covers policy ↔ SatisfiesRef ref policy := by
  constructor
  · intro h
    exact h ref rfl
  · rintro h _ rfl
    exact h

/-- A pattern is covered by one ref only when it is that ref. -/
theorem covers_glob_exact_iff {pattern ref : Str} :
    (RefPolicy.glob pattern).Covers (.exact ref) ↔ '*' ∉ pattern ∧ pattern = ref := by
  have hcovers : (RefPolicy.glob pattern).Covers (.exact ref) ↔
      ∀ t, Glob.Matches '*' pattern t → t = ref := by
    simp only [RefPolicy.Covers, satisfiesRef_glob]
    rfl
  rw [hcovers]
  constructor
  · intro h
    have hmem : '*' ∉ pattern := Glob.not_mem_of_matches_unique (show 'a' ≠ 'b' by decide) h
    exact ⟨hmem, h pattern (Glob.matches_refl pattern)⟩
  · rintro ⟨hmem, rfl⟩ t ht
    exact (Glob.matches_of_not_mem hmem).mp ht

/-- A pattern is covered by another that matches it as a text. -/
theorem covers_glob_iff {pattern pattern' : Str} {c : Char} (hc : c ∉ pattern') :
    (RefPolicy.glob pattern).Covers (.glob pattern') ↔ globMatch pattern' pattern = true := by
  have hstar : String.utf8EncodeChar '*' = [42] := by decide
  rw [globMatch_iff, Glob.matches_utf8_iff hstar, ← Glob.covers_iff hc]
  simp only [RefPolicy.Covers, satisfiesRef_glob]
  rfl

/-- What `policy` has to pass for `policy'` to be the wider: its own text is a ref `policy'` allows,
    and only a glob is wider than a wildcard. -/
def RefPolicy.Within : RefPolicy → RefPolicy → Prop
  | .exact ref, policy' => SatisfiesRef ref policy'
  | .glob pattern, .glob pattern' => globMatch pattern' pattern = true
  | .glob pattern, .exact ref => '*' ∉ pattern ∧ pattern = ref

/-- **The matcher decides which glob is the wider**, read as a text the narrower one; all that is
    asked is that some character is not in the wider. -/
theorem refPolicy_covers_iff (policy policy' : RefPolicy)
    (hfresh : ∀ pattern', policy' = .glob pattern' → ∃ c, c ∉ pattern') :
    policy.Covers policy' ↔ policy.Within policy' := by
  cases policy with
  | exact ref => exact covers_exact_iff
  | glob pattern =>
    cases policy' with
    | exact ref => exact covers_glob_exact_iff
    | glob pattern' =>
      obtain ⟨c, hc⟩ := hfresh pattern' rfl
      exact covers_glob_iff hc

/-- Of all branches the release branches are some. -/
theorem covers_releases : (RefPolicy.glob "refs/heads/release-*".toList).Covers
    (.glob "refs/heads/*".toList) := by
  have hmatch : globMatch "refs/heads/*".toList "refs/heads/release-*".toList = true :=
    (globMatch_iff_fill _ _).1.mpr ⟨["release-*".toList], by decide +kernel, by decide +kernel⟩
  refine (refPolicy_covers_iff _ _ ?_).mpr hmatch
  rintro _ ⟨rfl⟩
  exact ⟨'x', by decide +kernel⟩

/-! ### Letter case -/

/-- Only letters change, and they stay letters. -/
theorem toLower_eq_iff {x c : Char} (hc : c.val < 65) : x.toLower = c ↔ x = c := by
  unfold Char.toLower
  split
  · rename_i hupper
    refine iff_of_false ?_ ?_
    · rintro rfl
      have hle := UInt32.le_iff_toNat_le.mp hupper.1
      have hge := UInt32.le_iff_toNat_le.mp hupper.2
      have hlt := UInt32.lt_iff_toNat_lt.mp hc
      simp only [UInt32.toNat_add] at hlt
      simp at hle hge hlt
      omega
    · rintro rfl
      exact absurd hc (UInt32.not_lt.mpr hupper.1)
  · rfl

/-- Texts that are equal up to letter case lack the same other characters. -/
theorem not_mem_of_eqIgnoreAsciiCase {s t : Str} {c : Char} (h : eqIgnoreAsciiCase s t)
    (hc : c.val < 65) (hs : c ∉ s) : c ∉ t := by
  have hmap (u : Str) : c ∈ u.map Char.toLower ↔ c ∈ u := by
    simp only [List.mem_map, toLower_eq_iff hc, exists_eq_right]
  rwa [← hmap t, ← h, hmap s]

/-- Hex is written in one case. -/
theorem CommitSha.eq_of_toHex {commit commit' : CommitSha}
    (h : eqIgnoreAsciiCase commit.toHex commit'.toHex) : commit = commit' := by
  have hlower (commit : CommitSha) : commit.toHex.map Char.toLower = commit.toHex :=
    Hex.decode_eq_some.mp (Hex.decode_encode _)
  unfold eqIgnoreAsciiCase at h
  rw [hlower, hlower] at h
  obtain ⟨sha⟩ := commit
  obtain ⟨sha'⟩ := commit'
  exact congrArg CommitSha.mk (Octets.ext (Hex.encode_injective h))

/-! ### Policies that can be met -/

/-- Of the signer and source a policy names some certificate can be: the names have no separator of
    the URI they stand in, and the path is one of a workflow file. -/
structure GithubPolicy.Meetable (policy : GithubPolicy) : Prop where
  sourceOwner : '/' ∉ policy.source.repository.owner
  sourceName : '/' ∉ policy.source.repository.name
  signerOwner : '/' ∉ policy.signer.repository.owner ∧ '@' ∉ policy.signer.repository.owner
  signerName : '/' ∉ policy.signer.repository.name ∧ '@' ∉ policy.signer.repository.name
  signerPath : workflowPathPrefix <+: policy.signer.path.path ∧ '@' ∉ policy.signer.path.path
  signerRef : ∀ ref, policy.signer.revision = .ref ref → ref ≠ [] ∧ '@' ∉ ref

/-- The commit a revision policy pins. -/
def WorkflowRevisionPolicy.commit : WorkflowRevisionPolicy → Option CommitSha
  | .sha commit => some commit
  | _ => none

/-- A revision the policy leaves room for. -/
structure WorkflowRevisionPolicy.Allows (policy : WorkflowRevisionPolicy) (gitRef : Str) :
    Prop where
  ref_ne : gitRef ≠ []
  ref_at : '@' ∉ gitRef
  pinned : ∀ ref, policy = .ref ref → gitRef = ref

namespace GithubPolicy

variable (policy : GithubPolicy)

/-- The signer the policy names, at a revision. -/
def namedSigner (gitRef : Str) : SignerUriParts :=
  ⟨policy.signer.repository.owner, policy.signer.repository.name, policy.signer.path.path, gitRef⟩

/-- The claims of a certificate that is all the policy asks for and nothing more. -/
def namedClaims (ref gitRef : Str) : FulcioClaims where
  sanUri := some (policy.namedSigner gitRef).render
  issuer := some expectedIssuer
  buildSignerUri := none
  buildSignerDigest := policy.signer.revision.commit.map CommitSha.toHex
  runnerEnvironment := none
  sourceRepositoryUri := some (githubUriPrefix ++
    ownerSlashName policy.source.repository.owner policy.source.repository.name)
  sourceRepositoryDigest := policy.source.commit.map CommitSha.toHex
  sourceRepositoryRef := some ref
  sourceRepositoryId := policy.source.repository.repositoryId.map (decimal ·.toNat)
  sourceRepositoryOwnerUri := none
  sourceRepositoryOwnerId := policy.source.repository.ownerId.map (decimal ·.toNat)
  buildConfigUri := none
  buildConfigDigest := none
  buildTrigger := none
  runInvocationUri := none

variable {policy}

/-- The claims made for a policy satisfy it. -/
theorem satisfies_namedClaims (h : policy.Meetable) {ref gitRef : Str}
    (href : SatisfiesRef ref policy.source.gitRef) (hgit : policy.signer.revision.Allows gitRef) :
    Satisfies policy (policy.namedClaims ref gitRef) policy.source.repository.owner
      policy.source.repository.name ref (policy.namedSigner gitRef) where
  issuer := rfl
  sourceUri := ⟨_, rfl, rfl, policy.source.repository.owner_ne, policy.source.repository.name_ne,
    h.sourceOwner, h.sourceName⟩
  sourceRepository := ⟨rfl, rfl⟩
  sourceOwnerId := fun id hid => by rw [namedClaims, hid]; rfl
  sourceRepositoryId := fun id hid => by rw [namedClaims, hid]; rfl
  sourceRef := rfl
  sourceRefPolicy := href
  sourceCommit := fun commit hcommit => ⟨commit.toHex, by rw [namedClaims, hcommit]; rfl, rfl⟩
  signerUri := ⟨_, rfl, isSignerUri_iff.mpr
    ⟨{ owner_ne := policy.signer.repository.owner_ne
       owner_slash := h.signerOwner.1
       owner_at := h.signerOwner.2
       name_ne := policy.signer.repository.name_ne
       name_slash := h.signerName.1
       name_at := h.signerName.2
       path_prefix := h.signerPath.1
       path_at := h.signerPath.2
       ref_ne := hgit.ref_ne
       ref_at := hgit.ref_at }, rfl⟩⟩
  signerRepository := ⟨rfl, rfl⟩
  signerPath := rfl
  signerRevision := by
    have hpinned := hgit.pinned
    show SatisfiesRevision gitRef (policy.signer.revision.commit.map CommitSha.toHex) _
    cases hrevision : policy.signer.revision with
    | any => trivial
    | ref ref => exact hpinned ref hrevision
    | sha commit =>
      rintro _ ⟨rfl⟩
      exact ⟨commit.toHex, rfl, rfl⟩

/-- What a satisfied policy names is spelled as in the certificate, up to letter case. -/
theorem meetable_of_satisfies {claims : FulcioClaims} {owner name ref : Str}
    {signer : SignerUriParts} (h : Satisfies policy claims owner name ref signer) :
    policy.Meetable := by
  obtain ⟨_, -, hsource⟩ := h.sourceUri
  obtain ⟨_, -, huri⟩ := h.signerUri
  obtain ⟨hparts, -⟩ := isSignerUri_iff.mp huri
  have hslash : ('/' : Char).val < 65 := by decide
  have hat : ('@' : Char).val < 65 := by decide
  exact
    { sourceOwner := not_mem_of_eqIgnoreAsciiCase h.sourceRepository.1 hslash hsource.owner_slash
      sourceName := not_mem_of_eqIgnoreAsciiCase h.sourceRepository.2 hslash hsource.name_slash
      signerOwner :=
        ⟨not_mem_of_eqIgnoreAsciiCase h.signerRepository.1 hslash hparts.owner_slash,
        not_mem_of_eqIgnoreAsciiCase h.signerRepository.1 hat hparts.owner_at⟩
      signerName :=
        ⟨not_mem_of_eqIgnoreAsciiCase h.signerRepository.2 hslash hparts.name_slash,
        not_mem_of_eqIgnoreAsciiCase h.signerRepository.2 hat hparts.name_at⟩
      signerPath := by
        rw [← h.signerPath]
        exact ⟨hparts.path_prefix, hparts.path_at⟩
      signerRef := by
        intro ref hrevision
        have hsatisfied := h.signerRevision
        rw [hrevision] at hsatisfied
        obtain rfl : signer.gitRef = ref := hsatisfied
        exact ⟨hparts.ref_ne, hparts.ref_at⟩ }

/-- Some revision is always left: the pinned one, or any. -/
theorem exists_allows (h : policy.Meetable) : ∃ gitRef, policy.signer.revision.Allows gitRef := by
  cases hrevision : policy.signer.revision with
  | ref ref =>
    obtain ⟨hne, hat⟩ := h.signerRef ref hrevision
    refine ⟨ref, hne, hat, ?_⟩
    rintro _ ⟨rfl⟩
    rfl
  | any => exact ⟨['a'], by simp, by decide, by simp⟩
  | sha commit => exact ⟨['a'], by simp, by decide, by simp⟩

/-- Claims can be named for a policy that can be met. -/
theorem exists_satisfies_iff : (∃ claims owner name ref signer,
    Satisfies policy claims owner name ref signer) ↔ policy.Meetable := by
  constructor
  · rintro ⟨claims, owner, name, ref, signer, hsatisfies⟩
    exact meetable_of_satisfies hsatisfies
  · intro h
    obtain ⟨ref, href⟩ := exists_satisfiesRef policy.source.gitRef
    obtain ⟨gitRef, hgit⟩ := exists_allows h
    exact ⟨_, _, _, _, _, satisfies_namedClaims h href hgit⟩

end GithubPolicy

/-- **Which policies mean anything.**  Some certificate satisfies a policy precisely when the names
    in it fit the URIs they are compared with. -/
theorem githubPolicy_meetable_iff (policy : GithubPolicy) :
    (∃ claims identity, matchPolicy claims policy = .ok identity) ↔ policy.Meetable := by
  rw [← GithubPolicy.exists_satisfies_iff]
  constructor
  · rintro ⟨claims, identity, h⟩
    obtain ⟨owner, name, ref, signer, hsatisfies, -⟩ := matchPolicy_eq_ok.mp h
    exact ⟨claims, owner, name, ref, signer, hsatisfies⟩
  · rintro ⟨claims, owner, name, ref, signer, hsatisfies⟩
    exact ⟨claims, _, matchPolicy_eq_ok.mpr ⟨owner, name, ref, signer, hsatisfies, rfl⟩⟩

/-! ### Wider policies -/

/-- `policy'` asks for no more than `policy`, part by part. -/
structure GithubPolicy.Within (policy policy' : GithubPolicy) : Prop where
  sourceRepository : SameRepository policy.source.repository.owner policy.source.repository.name
    policy'.source.repository
  sourceOwnerId : ∀ id ∈ policy'.source.repository.ownerId,
    policy.source.repository.ownerId = some id
  sourceRepositoryId : ∀ id ∈ policy'.source.repository.repositoryId,
    policy.source.repository.repositoryId = some id
  sourceRef : policy.source.gitRef.Covers policy'.source.gitRef
  sourceCommit : ∀ commit ∈ policy'.source.commit, policy.source.commit = some commit
  signerRepository : SameRepository policy.signer.repository.owner policy.signer.repository.name
    policy'.signer.repository
  signerPath : policy.signer.path.path = policy'.signer.path.path
  signerRevision : policy'.signer.revision = .any ∨
    policy'.signer.revision = policy.signer.revision

section Within

variable {policy policy' : GithubPolicy} {claims : FulcioClaims} {owner name ref : Str}
  {signer : SignerUriParts}

/-- An id that is asked for no more is satisfied by more claims. -/
theorem SatisfiesId.mono {pinned pinned' : Option UInt64} {claim : Option Str}
    (h : ∀ id ∈ pinned', pinned = some id) (hsatisfied : SatisfiesId pinned claim) :
    SatisfiesId pinned' claim := fun id hid => hsatisfied id (h id hid)

/-- What satisfies the narrower policy satisfies the wider one. -/
theorem GithubPolicy.Within.satisfies (h : policy.Within policy')
    (hsatisfied : Satisfies policy claims owner name ref signer) :
    Satisfies policy' claims owner name ref signer :=
  { hsatisfied with
    sourceRepository := ⟨hsatisfied.sourceRepository.1.trans h.sourceRepository.1,
      hsatisfied.sourceRepository.2.trans h.sourceRepository.2⟩
    sourceOwnerId := hsatisfied.sourceOwnerId.mono h.sourceOwnerId
    sourceRepositoryId := hsatisfied.sourceRepositoryId.mono h.sourceRepositoryId
    sourceRefPolicy := h.sourceRef ref hsatisfied.sourceRefPolicy
    sourceCommit := fun commit hcommit =>
      hsatisfied.sourceCommit commit (h.sourceCommit commit hcommit)
    signerRepository := ⟨hsatisfied.signerRepository.1.trans h.signerRepository.1,
      hsatisfied.signerRepository.2.trans h.signerRepository.2⟩
    signerPath := hsatisfied.signerPath.trans h.signerPath
    signerRevision := by
      rcases h.signerRevision with hany | hsame
      · rw [hany]
        trivial
      · rw [hsame]
        exact hsatisfied.signerRevision }

/-- A pin that a policy's own claim satisfies is its own pin. -/
theorem pinned_eq_of_satisfiesId {pinned pinned' : Option UInt64}
    (h : SatisfiesId pinned' (pinned.map (decimal ·.toNat))) :
    ∀ id ∈ pinned', pinned = some id := by
  intro id hid
  obtain ⟨id', rfl, hdecimal⟩ := Option.map_eq_some_iff.mp (h id hid)
  rw [UInt64.toNat_inj.mp (decimal_injective hdecimal)]

/-- Two pinned commits that one claim satisfies are one. -/
theorem commit_eq_of_satisfiesCommit {commit commit' : Option CommitSha}
    (h : SatisfiesCommit commit' (commit.map CommitSha.toHex)) :
    ∀ pinned ∈ commit', commit = some pinned := by
  intro pinned hpinned
  obtain ⟨found, hfound, hhex⟩ := h pinned hpinned
  obtain ⟨sha, rfl, rfl⟩ := Option.map_eq_some_iff.mp hfound
  rw [CommitSha.eq_of_toHex hhex]

/-- A revision policy that two revisions of another satisfy leaves them open, or is the other. -/
theorem revision_eq_of_satisfied {revision revision' : WorkflowRevisionPolicy}
    (h : ∀ gitRef, revision.Allows gitRef →
      SatisfiesRevision gitRef (revision.commit.map CommitSha.toHex) revision') {gitRef : Str}
    (hallowed : revision.Allows gitRef) : revision' = .any ∨ revision' = revision := by
  have hfree (hopen : ∀ ref, revision ≠ .ref ref) (ref : Str) : revision' ≠ .ref ref := by
    -- two revisions are open, and one ref is not both
    rintro rfl
    have ha : ['a'] = ref := h ['a'] ⟨by simp, by decide, fun ref h => absurd h (hopen ref)⟩
    have hb : ['b'] = ref := h ['b'] ⟨by simp, by decide, fun ref h => absurd h (hopen ref)⟩
    exact absurd (ha.trans hb.symm) (by decide)
  cases revision' with
  | any => exact .inl rfl
  | ref ref =>
    cases revision with
    | ref ref' =>
      have heq : gitRef = ref := h gitRef hallowed
      rw [← heq, hallowed.pinned ref' rfl]
      exact .inr rfl
    | any => exact absurd rfl (hfree (by simp) ref)
    | sha commit => exact absurd rfl (hfree (by simp) ref)
  | sha commit =>
    have hcommit := commit_eq_of_satisfiesCommit (h gitRef hallowed) commit rfl
    cases revision with
    | sha commit' =>
      obtain rfl : commit' = commit := Option.some.inj hcommit
      exact .inr rfl
    | any => cases hcommit
    | ref ref => cases hcommit

/-- What the certificates a policy names satisfy asks for no more. -/
theorem GithubPolicy.within_of_satisfies (h : policy.Meetable)
    (hcovers : ∀ claims owner name ref signer, Satisfies policy claims owner name ref signer →
      ∃ owner' name' ref' signer', Satisfies policy' claims owner' name' ref' signer') :
    policy.Within policy' := by
  have hnamed {ref gitRef : Str} (href : SatisfiesRef ref policy.source.gitRef)
      (hgit : policy.signer.revision.Allows gitRef) :
      Satisfies policy' (policy.namedClaims ref gitRef) policy.source.repository.owner
        policy.source.repository.name ref (policy.namedSigner gitRef) := by
    -- the claims are read in one way
    have hown := GithubPolicy.satisfies_namedClaims h href hgit
    obtain ⟨_, _, _, _, hother⟩ := hcovers _ _ _ _ _ hown
    obtain ⟨rfl, rfl, rfl, rfl⟩ := hown.unique hother
    exact hother
  obtain ⟨ref, href⟩ := exists_satisfiesRef policy.source.gitRef
  obtain ⟨gitRef, hgit⟩ := GithubPolicy.exists_allows h
  have hone := hnamed href hgit
  exact
    { sourceRepository := hone.sourceRepository
      sourceOwnerId := pinned_eq_of_satisfiesId hone.sourceOwnerId
      sourceRepositoryId := pinned_eq_of_satisfiesId hone.sourceRepositoryId
      sourceRef := fun ref href => (hnamed href hgit).sourceRefPolicy
      sourceCommit := commit_eq_of_satisfiesCommit hone.sourceCommit
      signerRepository := hone.signerRepository
      signerPath := hone.signerPath
      signerRevision := revision_eq_of_satisfied
        (fun gitRef hgit => (hnamed href hgit).signerRevision) hgit }

end Within

/-- **Policies are compared part by part.**  Of a policy that can be met, another accepts every
    certificate, with the same identity, precisely when it asks for no more in any part: the same
    repositories up to letter case and the same file, no pin or commit but those pinned, refs that
    include its refs, and any revision or the same. -/
theorem githubPolicy_covers_iff {policy policy' : GithubPolicy} (h : policy.Meetable) :
    (∀ claims identity, matchPolicy claims policy = .ok identity →
      matchPolicy claims policy' = .ok identity) ↔ policy.Within policy' := by
  constructor
  · intro hcovers
    refine GithubPolicy.within_of_satisfies h fun claims owner name ref signer hsatisfied => ?_
    obtain ⟨owner', name', ref', signer', hsatisfied', -⟩ := matchPolicy_eq_ok.mp
      (hcovers claims _ (matchPolicy_eq_ok.mpr ⟨owner, name, ref, signer, hsatisfied, rfl⟩))
    exact ⟨owner', name', ref', signer', hsatisfied'⟩
  · intro hwithin claims identity hok
    obtain ⟨owner, name, ref, signer, hsatisfied, rfl⟩ := matchPolicy_eq_ok.mp hok
    exact matchPolicy_eq_ok.mpr ⟨owner, name, ref, signer, hwithin.satisfies hsatisfied, rfl⟩

namespace Specimen

/-- The sample's policy for every ref. -/
def anyRefPolicy : GithubPolicy :=
  { githubPolicy with source := { githubPolicy.source with gitRef := .glob ['*'] } }

/-- The sample's policy asks for more than the one for every ref. -/
theorem within_anyRefPolicy : githubPolicy.Within anyRefPolicy where
  sourceRepository := ⟨rfl, rfl⟩
  sourceOwnerId := by simp [anyRefPolicy, githubPolicy, repository]
  sourceRepositoryId := by simp [anyRefPolicy, githubPolicy, repository]
  sourceRef := fun ref _ => satisfiesRef_glob.mpr (Glob.matches_wildcard_iff.mpr
    ⟨ref, [], (List.append_nil ref).symm, rfl⟩)
  sourceCommit := by simp [anyRefPolicy, githubPolicy]
  signerRepository := ⟨rfl, rfl⟩
  signerPath := rfl
  signerRevision := .inl rfl

end Specimen

/-- The two policies of the sample, compared. -/
theorem githubPolicy_covers_specimen :
    (∀ claims identity, matchPolicy claims Specimen.githubPolicy = .ok identity →
      matchPolicy claims Specimen.anyRefPolicy = .ok identity) ↔
      Specimen.githubPolicy.Within Specimen.anyRefPolicy :=
  githubPolicy_covers_iff (GithubPolicy.meetable_of_satisfies Specimen.satisfies)

/-! ### Verifiers -/

/-- Trust roots added at the end. -/
structure TrustStore.Extends (trustStore trustStore' : TrustStore) : Prop where
  tlogs : trustStore.tlogs <+: trustStore'.tlogs
  ctlogs : trustStore.ctlogs <+: trustStore'.ctlogs
  certificateAuthorities :
    trustStore.certificateAuthorities <+: trustStore'.certificateAuthorities

section Verifiers

variable {X : Externals} {trustStore trustStore' : TrustStore}

/-- What is found first stays first when more comes after. -/
theorem find?_eq_some_of_extended {α : Type} {p : α → Bool} {l l' : List α} {a : α} (h : l <+: l')
    (hfind : l.find? p = some a) : l'.find? p = some a := by
  obtain ⟨more, rfl⟩ := h
  rw [List.find?_append, hfind, Option.some_or]

/-- The selected log stays selected. -/
theorem SelectedLog.mono (h : trustStore.Extends trustStore') {logId : Bytes}
    {log : TransparencyLog} {logKey : EcdsaVerifyingKey}
    (hselected : SelectedLog X trustStore logId log logKey) :
    SelectedLog X trustStore' logId log logKey :=
  ⟨find?_eq_some_of_extended h.tlogs hselected.selected, hselected.key⟩

/-- The authorities that were tried before the one found are the same. -/
theorem FirstAnchors.mono (h : trustStore.Extends trustStore') {leaf : X509Certificate} {t : ℤ}
    {validated : ValidatedLeaf} (hanchors : FirstAnchors X trustStore leaf t validated) :
    FirstAnchors X trustStore' leaf t validated := by
  obtain ⟨before, ca, after, hcas, hca, hbefore⟩ := hanchors
  obtain ⟨more, hmore⟩ := h.certificateAuthorities
  exact ⟨before, ca, after ++ more, by rw [← hmore, hcas, List.append_assoc, List.cons_append],
    hca, hbefore⟩

/-- A signed SCT stays one. -/
theorem HasSignedSct.mono (h : trustStore.Extends trustStore') {validated : ValidatedLeaf}
    (hsct : HasSignedSct X validated trustStore) : HasSignedSct X validated trustStore' := by
  obtain ⟨bytes, scts, tbsDer, precertTbs, hbytes, hscts, htbs, hprecert, sct, hmem, log, hselect,
    hsigned⟩ := hsct
  exact ⟨bytes, scts, tbsDer, precertTbs, hbytes, hscts, htbs, hprecert, sct, hmem, log,
    find?_eq_some_of_extended h.ctlogs hselect, hsigned⟩

/-- A verified entry stays verified, with the same log and checkpoint. -/
theorem EntryVerified.mono (h : trustStore.Extends trustStore')
    {policy policy' : CheckpointOriginPolicy}
    (hgrants : ∀ keyId origin, Grants policy.bindings keyId origin →
      Grants policy'.bindings keyId origin)
    {bundle : Bundle} {tlogEntry : TlogEntry} {body : TlogEntryBody} {log : TransparencyLog}
    {logKey : EcdsaVerifyingKey} {proof : InclusionProof} {checkpoint : ParsedCheckpoint}
    {leaf : X509Certificate}
    (hentry : EntryVerified X bundle trustStore policy tlogEntry body log logKey proof checkpoint
      leaf) :
    EntryVerified X bundle trustStore' policy' tlogEntry body log logKey proof checkpoint leaf :=
  { hentry with
    selection := hentry.selection.mono h
    origin := hgrants _ _ hentry.origin }

variable {verifier verifier' : Verifier X} {subject : Subject} {bundle : Bundle}

/-- What is accepted stays accepted, for the same reasons. -/
theorem Accepted.mono (h : verifier.trustStore.Extends verifier'.trustStore)
    (hgrants : ∀ keyId origin, Grants verifier.checkpointOriginPolicy.bindings keyId origin →
      Grants verifier'.checkpointOriginPolicy.bindings keyId origin)
    {statement : Statement} {matched : StatementSubject} {tlogEntry : TlogEntry}
    {leaf : X509Certificate} {claims : FulcioClaims}
    (haccepted : Accepted verifier subject bundle statement matched tlogEntry leaf claims) :
    Accepted verifier' subject bundle statement matched tlogEntry leaf claims := by
  obtain ⟨body, log, logKey, proof, checkpoint, hentry⟩ := haccepted.entry
  obtain ⟨validated, hleaf⟩ := haccepted.leaf
  exact
    { statement := haccepted.statement
      entry := ⟨body, log, logKey, proof, checkpoint, hentry.mono h hgrants⟩
      leaf := ⟨validated, hleaf.anchored.mono h, hleaf.signed, hleaf.sct.mono h, hleaf.claims⟩ }

/-- **A more permissive verifier loses nothing.**  With trust roots added at the end, origins
    granted and a policy that asks for no more, every accepted bundle stays accepted, and what is
    reported of it, the trust snapshot aside, stays the same. -/
theorem Verifier.verifyDigest_mono (hroots : verifier.trustStore.Extends verifier'.trustStore)
    (hgrants : ∀ keyId origin, Grants verifier.checkpointOriginPolicy.bindings keyId origin →
      Grants verifier'.checkpointOriginPolicy.bindings keyId origin)
    (hpolicy : verifier.githubPolicy.Within verifier'.githubPolicy) {report : VerificationReport}
    (hok : verifier.verifyDigest subject bundle = .ok report) :
    verifier'.verifyDigest subject bundle = .ok { report with
      trust := ⟨verifier'.trustStore.fingerprint, verifier'.trustStore.source⟩ } := by
  obtain ⟨statement, matched, tlogEntry, leaf, claims, haccepted, owner, name, ref, signer,
    hsatisfied, rfl⟩ := verifyDigest_eq_ok.mp hok
  exact verifyDigest_eq_ok.mpr ⟨statement, matched, tlogEntry, leaf, claims,
    haccepted.mono hroots hgrants, owner, name, ref, signer, hpolicy.satisfies hsatisfied, rfl⟩

end Verifiers

namespace Specimen

/-- The sample's verifier with one more log and authority, and for every ref. -/
def widerVerifier : Verifier externals where
  trustStore :=
    { trustStore with
      tlogs := trustStore.tlogs ++ [{ log with publicKey := ⟨spki, [], window⟩ }]
      certificateAuthorities := trustStore.certificateAuthorities ++ [⟨⟨[], []⟩, [], [], window⟩]
      fingerprint := ['f'] }
  githubPolicy := anyRefPolicy
  checkpointOriginPolicy := originPolicy
  signer_unpinned := ⟨rfl, rfl⟩
  keys_known := List.forall_mem_singleton.mpr ⟨log, List.mem_cons_self, sha256_logSpki⟩

/-- The wider verifier has the sample's trust roots first. -/
theorem extends_widerVerifier : verifier.trustStore.Extends widerVerifier.trustStore where
  tlogs := List.prefix_append _ _
  ctlogs := List.prefix_rfl
  certificateAuthorities := List.prefix_append _ _

end Specimen

/-- The sample is accepted by the wider verifier too. -/
theorem Verifier.verifyDigest_mono_specimen :
    Specimen.widerVerifier.verifyDigest Specimen.subject Specimen.bundle =
      .ok { Specimen.report with trust := ⟨['f'], []⟩ } :=
  Verifier.verifyDigest_mono Specimen.extends_widerVerifier (fun _ _ h => h)
    Specimen.within_anyRefPolicy Specimen.accepted

end AttestationVerify
