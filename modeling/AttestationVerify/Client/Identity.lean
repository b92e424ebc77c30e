import AttestationVerify.Client.Conformance

namespace AttestationVerify

open Wire

/-!
# The identity the conformance client is given

`parse_github_identity` beside the crate's own grammar of a certificate's SAN URI.

* `SignerUriParts.Named` — the parts of an identity that is taken;
* `Conformance.parseGithubIdentity_eq_ok` — the grammar;
* `SignerUriParts.policy` — the policy for an identity, which no constructor refuses;
* `FulcioClaims.NameWorkflow` — the certificates the policy is met by;
* `Conformance.identityPolicy_spec` — the four together: which identities are taken, which
  certificates are of an identity, when there are any, and how their SAN is spelled.
-/

/-- Parts an identity can be written from: a file in the workflow directory, and any revision. -/
structure SignerUriParts.Named (parts : SignerUriParts) : Prop where
  owner_ne : parts.owner ≠ []
  owner_slash : '/' ∉ parts.owner
  owner_at : '@' ∉ parts.owner
  name_ne : parts.name ≠ []
  name_slash : '/' ∉ parts.name
  name_at : '@' ∉ parts.name
  path_prefix : workflowPathPrefix <+: parts.workflowPath
  path_ne : parts.workflowPath ≠ workflowPathPrefix
  path_at : '@' ∉ parts.workflowPath
  ref_ne : parts.gitRef ≠ []

/-- The crate's grammar asks for a revision without `@`, and allows the bare directory. -/
theorem SignerUriParts.named_at_iff {parts : SignerUriParts} :
    parts.Named ∧ '@' ∉ parts.gitRef ↔
      parts.WellFormed ∧ parts.workflowPath ≠ workflowPathPrefix := by
  constructor
  · rintro ⟨h, hat⟩
    exact ⟨⟨h.owner_ne, h.owner_slash, h.owner_at, h.name_ne, h.name_slash, h.name_at,
      h.path_prefix, h.path_at, h.ref_ne, hat⟩, h.path_ne⟩
  · rintro ⟨h, hne⟩
    exact ⟨⟨h.owner_ne, h.owner_slash, h.owner_at, h.name_ne, h.name_slash, h.name_at,
      h.path_prefix, hne, h.path_at, h.ref_ne⟩, h.ref_at⟩

/-- The text before the first `@` of an identity is its three other parts. -/
theorem SignerUriParts.splitOnce_render {parts : SignerUriParts} (howner : '@' ∉ parts.owner)
    (hname : '@' ∉ parts.name) (hpath : '@' ∉ parts.workflowPath) :
    (stripPrefix githubUriPrefix parts.render).bind (splitOnce '@') =
      some (ownerSlashName parts.owner (ownerSlashName parts.name parts.workflowPath),
        parts.gitRef) := by
  have hstrip : stripPrefix githubUriPrefix parts.render =
      some (ownerSlashName parts.owner (ownerSlashName parts.name parts.workflowPath) ++
        '@' :: parts.gitRef) := by
    rw [stripPrefix_eq_some]
    simp [SignerUriParts.render, ownerSlashName]
  rw [hstrip, Option.bind_some]
  exact splitOnce_append _ (by simp [ownerSlashName, howner, hname, hpath])

/-- The crate reads what the client takes, but for a revision with an `@`. -/
theorem SignerUriParts.exists_parse_iff {parts : SignerUriParts} (h : parts.Named) :
    '@' ∉ parts.gitRef ↔ ∃ parts', parseSignerSanUri parts.render = .ok parts' := by
  simp only [parseSignerSanUri_eq_ok, isSignerUri_iff]
  constructor
  · intro hat
    exact ⟨parts, (named_at_iff.mp ⟨h, hat⟩).1, rfl⟩
  · rintro ⟨parts', h', hrender⟩
    have hsplit := splitOnce_render h.owner_at h.name_at h.path_at
    rw [hrender, splitOnce_render h'.owner_at h'.name_at h'.path_at, Option.some.injEq] at hsplit
    rw [← (Prod.mk.inj hsplit).2]
    exact h'.ref_at

/-- The certificates of a workflow: issued by GitHub for a source repository that is also the
    workflow's, whose SAN names the workflow's file and revision. -/
structure FulcioClaims.NameWorkflow (claims : FulcioClaims) (parts : SignerUriParts) : Prop where
  issuer : claims.issuer = some expectedIssuer
  source : ∃ uri ∈ claims.sourceRepositoryUri, ∃ owner name, IsGithubRepoUri uri owner name ∧
    eqIgnoreAsciiCase owner parts.owner ∧ eqIgnoreAsciiCase name parts.name
  sourceRef : ∃ ref, claims.sourceRepositoryRef = some ref
  signer : ∃ signer : SignerUriParts, claims.sanUri = some signer.render ∧ signer.WellFormed ∧
    eqIgnoreAsciiCase signer.owner parts.owner ∧ eqIgnoreAsciiCase signer.name parts.name ∧
    signer.workflowPath = parts.workflowPath ∧ signer.gitRef = parts.gitRef

/-- The repository of an identity. -/
def SignerUriParts.repository (parts : SignerUriParts) (h : parts.Named) : RepositoryIdentity where
  owner := parts.owner
  name := parts.name
  ownerId := none
  repositoryId := none
  owner_ne := h.owner_ne
  name_ne := h.name_ne

/-- The workflow path of an identity is not empty. -/
theorem SignerUriParts.Named.workflowPath_ne {parts : SignerUriParts} (h : parts.Named) :
    parts.workflowPath ≠ [] := by
  obtain ⟨rest, hrest⟩ := h.path_prefix
  rw [← hrest]
  exact List.append_ne_nil_of_left_ne_nil (by decide +kernel) rest

/-- The policy of an identity. -/
def SignerUriParts.policy (parts : SignerUriParts) (h : parts.Named) : GithubPolicy where
  source := ⟨parts.repository h, .glob ['*'], none⟩
  signer := ⟨parts.repository h, ⟨parts.workflowPath, h.workflowPath_ne⟩, .ref parts.gitRef⟩

namespace Conformance

variable {host : Host}

/-! ### The grammar -/

/-- The path is taken when it names a file in the workflow directory. -/
theorem workflowPathPart_eq_some {part : Option Str} {path : Str} :
    workflowPathPart part = some path ↔
      part = some path ∧ workflowPathPrefix <+: path ∧ path ≠ workflowPathPrefix := by
  simp only [workflowPathPart, Option.filter_eq_some_iff, decide_eq_true_eq, and_assoc]
  refine and_congr_right fun _ => and_congr_right fun hstarts => ?_
  obtain ⟨rest, rfl⟩ := hstarts
  -- what is longer than the directory, in bytes or in characters, has something after it
  rw [utf8, utf8, List.flatMap_append, List.length_append, Nat.lt_add_right_iff_pos,
    List.length_pos_iff, ne_eq, ne_eq, List.append_right_eq_self, not_iff_not]
  exact ⟨fun h => utf8_injective h, fun h => congrArg utf8 h⟩

/-- An identity is taken exactly when it is written from named parts. -/
theorem parseGithubIdentity_eq_ok {identity : Str} {found : GithubIdentity} :
    parseGithubIdentity host identity = .ok found ↔ ∃ parts : SignerUriParts, parts.Named ∧
      identity = parts.render ∧
      found = ⟨ownerSlashName parts.owner parts.name, parts.workflowPath, parts.gitRef⟩ := by
  simp only [parseGithubIdentity, bind_eq_ok, okOr_eq_ok, ensure_eq_ok, pure_eq_ok,
    Except.ok.injEq, stripPrefix_eq_some, splitOnce_eq_some, Prod.exists, nonEmptyPart_eq_some,
    workflowPathPart_eq_some]
  constructor
  · intro h
    obtain ⟨_, rfl, repositoryAndPath, gitRef, ⟨rfl, hat⟩, _, href, owner, ⟨hfirst, howner⟩, name,
      ⟨hsecond, hname⟩, path, ⟨hthird, hstarts, hpath⟩, rfl⟩ := h
    obtain ⟨rfl, hownerSlash, hnameSlash⟩ := splitN_three_eq.mp ⟨hfirst, hsecond, hthird⟩
    -- the first `@` comes after all three parts
    simp only [List.mem_append, List.mem_cons, not_or] at hat
    obtain ⟨hownerAt, -, hnameAt, -, hpathAt⟩ := hat
    refine ⟨⟨owner, name, path, gitRef⟩, ⟨howner, hownerSlash, hownerAt, hname, hnameSlash, hnameAt,
      hstarts, hpath, hpathAt, href⟩, ?_, rfl⟩
    simp [SignerUriParts.render]
  · rintro ⟨parts, h, rfl, rfl⟩
    obtain ⟨hfirst, hsecond, hthird⟩ := splitN_three_eq.mpr
      ⟨rfl, h.owner_slash, h.name_slash⟩
    refine ⟨_, ?_, parts.owner ++ '/' :: (parts.name ++ '/' :: parts.workflowPath), parts.gitRef,
      ⟨rfl, ?_⟩, (), h.ref_ne, parts.owner, ⟨hfirst, h.owner_ne⟩, parts.name,
      ⟨hsecond, h.name_ne⟩, parts.workflowPath, ⟨hthird, h.path_prefix, h.path_ne⟩, rfl⟩
    · simp [SignerUriParts.render]
    · simp [h.owner_at, h.name_at, h.path_at]

/-- The policy is the one of those parts. -/
theorem identityPolicy_eq_ok {identity : Str} {policy : GithubPolicy} :
    identityPolicy host identity = .ok policy ↔
      ∃ (parts : SignerUriParts) (h : parts.Named), identity = parts.render ∧
        policy = parts.policy h := by
  simp only [identityPolicy, bind_eq_ok, orFail_eq_ok, parseGithubIdentity_eq_ok,
    repositoryIdentity_parse_eq_ok, workflowPath_new_eq_ok, githubPolicyBuilder_build_eq_ok]
  constructor
  · intro h
    obtain ⟨_, ⟨parts, h, rfl, rfl⟩, ⟨owner, name, _, _, _, _⟩,
      ⟨hspelled, howner, hname, rfl, rfl⟩, ⟨_, _⟩, rfl, -, -, rfl⟩ := h
    -- a text splits at its first slash in one way
    have hsplit : splitOnce '/' (ownerSlashName parts.owner parts.name) = some (owner, name) :=
      splitOnce_eq_some.mpr ⟨hspelled, howner⟩
    rw [ownerSlashName, splitOnce_append _ h.owner_slash, Option.some.injEq, Prod.mk.injEq]
      at hsplit
    obtain ⟨rfl, rfl⟩ := hsplit
    exact ⟨parts, h, rfl, rfl⟩
  · rintro ⟨parts, h, rfl, rfl⟩
    exact ⟨_, ⟨parts, h, rfl, rfl⟩, parts.repository h,
      ⟨rfl, h.owner_slash, h.name_slash, rfl, rfl⟩, ⟨parts.workflowPath, h.workflowPath_ne⟩, rfl,
      rfl, rfl, rfl⟩

/-! ### The policy -/

variable {parts : SignerUriParts}

/-- Some certificate can meet it unless the revision has another `@`. -/
theorem meetable_policy_iff (h : parts.Named) :
    (parts.policy h).Meetable ↔ '@' ∉ parts.gitRef := by
  constructor
  · exact fun hmeetable => (hmeetable.signerRef parts.gitRef rfl).2
  · intro hat
    exact
      { sourceOwner := h.owner_slash
        sourceName := h.name_slash
        signerOwner := ⟨h.owner_slash, h.owner_at⟩
        signerName := ⟨h.name_slash, h.name_at⟩
        signerPath := ⟨h.path_prefix, h.path_at⟩
        signerRef := by
          rintro _ ⟨rfl⟩
          exact ⟨h.ref_ne, hat⟩ }

/-- The policy is met by exactly the certificates of the workflow. -/
theorem satisfies_policy_iff (h : parts.Named) {claims : FulcioClaims} :
    (∃ owner name ref signer, Satisfies (parts.policy h) claims owner name ref signer) ↔
      claims.NameWorkflow parts := by
  constructor
  · rintro ⟨owner, name, ref, signer, hsatisfies⟩
    obtain ⟨uri, huri, hsource⟩ := hsatisfies.sourceUri
    obtain ⟨san, hsan, hsigner⟩ := hsatisfies.signerUri
    obtain ⟨hparts, rfl⟩ := isSignerUri_iff.mp hsigner
    exact
      { issuer := hsatisfies.issuer
        source := ⟨uri, huri, owner, name, hsource, hsatisfies.sourceRepository⟩
        sourceRef := ⟨ref, hsatisfies.sourceRef⟩
        signer := ⟨signer, hsan, hparts, hsatisfies.signerRepository.1,
          hsatisfies.signerRepository.2, hsatisfies.signerPath, hsatisfies.signerRevision⟩ }
  · intro hnames
    obtain ⟨uri, huri, owner, name, hsource, hsame⟩ := hnames.source
    obtain ⟨ref, href⟩ := hnames.sourceRef
    obtain ⟨signer, hsan, hparts, howner, hname, hpath, hrevision⟩ := hnames.signer
    exact ⟨owner, name, ref, signer,
      { issuer := hnames.issuer
        sourceUri := ⟨uri, huri, hsource⟩
        sourceRepository := hsame
        sourceOwnerId := fun id hid => nomatch hid
        sourceRepositoryId := fun id hid => nomatch hid
        sourceRef := href
        sourceRefPolicy := satisfiesRef_glob.mpr (Glob.matches_wildcard_iff.mpr
          ⟨ref, [], (List.append_nil ref).symm, rfl⟩)
        sourceCommit := fun commit hcommit => nomatch hcommit
        signerUri := ⟨signer.render, hsan, isSignerUri_iff.mpr ⟨hparts, rfl⟩⟩
        signerRepository := ⟨howner, hname⟩
        signerPath := hpath
        signerRevision := hrevision }⟩

/-- Two URIs of one workflow differ in the letter case of owner and name only. -/
theorem eqIgnoreAsciiCase_render {signer : SignerUriParts}
    (howner : eqIgnoreAsciiCase signer.owner parts.owner)
    (hname : eqIgnoreAsciiCase signer.name parts.name)
    (hpath : signer.workflowPath = parts.workflowPath) (href : signer.gitRef = parts.gitRef) :
    eqIgnoreAsciiCase signer.render parts.render := by
  unfold eqIgnoreAsciiCase at howner hname ⊢
  simp only [SignerUriParts.render, List.map_append, List.map_cons, howner, hname, hpath, href]

/-- **What an identity stands for.**  An identity is taken when it spells a workflow file and a
    revision; its policy is met by exactly the certificates of that workflow; there are such
    certificates precisely when the crate's own grammar reads the identity, which a second `@`
    prevents; and their SAN is the identity up to the letter case of owner and name. -/
theorem identityPolicy_spec (host : Host) (identity : Str) :
    ((∃ policy, identityPolicy host identity = .ok policy) ↔
      ∃ parts : SignerUriParts, parts.Named ∧ identity = parts.render) ∧
    ∀ policy, identityPolicy host identity = .ok policy →
      (∃ parts : SignerUriParts, parts.Named ∧ identity = parts.render ∧
        ∀ claims, (∃ matched, matchPolicy claims policy = .ok matched) ↔
          claims.NameWorkflow parts) ∧
      ((∃ claims matched, matchPolicy claims policy = .ok matched) ↔
        ∃ parts, parseSignerSanUri identity = .ok parts) ∧
      ∀ claims matched, matchPolicy claims policy = .ok matched →
        ∃ uri ∈ claims.sanUri, eqIgnoreAsciiCase uri identity := by
  refine ⟨⟨?_, ?_⟩, fun policy hpolicy => ?_⟩
  · rintro ⟨policy, hpolicy⟩
    obtain ⟨parts, h, hidentity, -⟩ := identityPolicy_eq_ok.mp hpolicy
    exact ⟨parts, h, hidentity⟩
  · rintro ⟨parts, h, hidentity⟩
    exact ⟨_, identityPolicy_eq_ok.mpr ⟨parts, h, hidentity, rfl⟩⟩
  obtain ⟨parts, h, rfl, rfl⟩ := identityPolicy_eq_ok.mp hpolicy
  have hmatch (claims : FulcioClaims) :
      (∃ matched, matchPolicy claims (parts.policy h) = .ok matched) ↔
        claims.NameWorkflow parts := by
    rw [← satisfies_policy_iff h]
    simp only [matchPolicy_eq_ok]
    constructor
    · intro h
      obtain ⟨_, owner, name, ref, signer, hsatisfies, -⟩ := h
      exact ⟨owner, name, ref, signer, hsatisfies⟩
    · rintro ⟨owner, name, ref, signer, hsatisfies⟩
      exact ⟨_, owner, name, ref, signer, hsatisfies, rfl⟩
  refine ⟨⟨parts, h, rfl, hmatch⟩, ?_, ?_⟩
  · rw [← SignerUriParts.exists_parse_iff h, ← meetable_policy_iff h,
      ← GithubPolicy.exists_satisfies_iff]
    simp only [matchPolicy_eq_ok]
    constructor
    · intro h
      obtain ⟨claims, _, owner, name, ref, signer, hsatisfies, -⟩ := h
      exact ⟨claims, owner, name, ref, signer, hsatisfies⟩
    · intro h
      obtain ⟨claims, owner, name, ref, signer, hsatisfies⟩ := h
      exact ⟨claims, _, owner, name, ref, signer, hsatisfies, rfl⟩
  · rintro claims matched hok
    have hnames := (hmatch claims).mp ⟨matched, hok⟩
    obtain ⟨signer, hsan, -, howner, hname, hpath, href⟩ := hnames.signer
    exact ⟨signer.render, hsan, eqIgnoreAsciiCase_render howner hname hpath href⟩

end Conformance

end AttestationVerify
