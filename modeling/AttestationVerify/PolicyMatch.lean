import AttestationVerify.Fulcio
import AttestationVerify.Policy
import AttestationVerify.Wire.Glob

namespace AttestationVerify

open Wire

/-!
# Matching claims against a policy

`policy_match.rs`: the two URI grammars, the checks `match_policy` makes in order, and what passing
all of them says about the claims.

* `parseGithubRepoUri_eq_ok`, `parseSignerSanUri_eq_ok` — the grammars;
* `Satisfies` — the policy as a property of the claims;
* `matchPolicy_spec` — `match_policy` succeeds exactly on it, and two claim sets that satisfy one
  policy with an exact ref and a pinned workflow ref name the same workflow.
-/

/-- The one issuer that is accepted: GitHub's token service. -/
def expectedIssuer : Str := "https://token.actions.githubusercontent.com".toList

/-- What every GitHub URI starts with. -/
def githubUriPrefix : Str := "https://github.com/".toList

/-- The directory of workflow files. -/
def workflowPathPrefix : Str := ".github/workflows/".toList

/-- What a certificate that satisfies the policy says. -/
structure MatchedIdentity where
  issuer : Str
  sourceRepository : Str
  sourceRef : Str
  signerRepository : Str
  signerWorkflowPath : Str
  deriving DecidableEq

/-- A claim that the policy looks at has to be there. -/
def requireClaim (claim : Option Str) (name : String) : Except Error Str :=
  okOr claim (.policy (.missingIdentityClaim name))

/-- The error on a claim that cannot be read. -/
def malformedClaim (claim : String) (reason : Str) : Error :=
  .policy (.malformedIdentityClaim claim reason)

/-! ### The two grammars -/

/-- `missing "<prefix>" prefix`. -/
def missingPrefix : Str := "missing \"".toList ++ githubUriPrefix ++ "\" prefix".toList

/-- `parse_github_repo_uri`: owner and name, with one slash between them. -/
def parseGithubRepoUri (uri : Str) (claim : String) : Except Error (Str × Str) := do
  let rest ← okOr (stripPrefix githubUriPrefix uri) (malformedClaim claim missingPrefix)
  let (owner, name) ← okOr (splitOnce '/' rest)
    (malformedClaim claim "missing '/' between owner and repository name".toList)
  ensure (owner ≠ [] ∧ name ≠ []) (malformedClaim claim "empty owner or repository name".toList)
  ensure ('/' ∉ name)
    (malformedClaim claim "unexpected extra path segment after repository name".toList)
  pure (owner, name)

/-- The parts of a signer's SAN. -/
structure SignerUriParts where
  owner : Str
  name : Str
  workflowPath : Str
  gitRef : Str
  deriving DecidableEq

/-- A part of `splitn` that has to be there and not be empty. -/
def nonEmptyPart (part : Option Str) : Option Str := part.filter (· ≠ [])

/-- `parse_signer_san_uri`: the revision is split off first, then owner, name and path. -/
def parseSignerSanUri (uri : Str) : Except Error SignerUriParts := do
  let rest ← okOr (stripPrefix githubUriPrefix uri) (malformedClaim "san_uri" missingPrefix)
  let (repoAndPath, gitRef) ← okOr (splitOnce '@' rest)
    (malformedClaim "san_uri" "missing '@' revision separator".toList)
  ensure ('@' ∉ gitRef)
    (malformedClaim "san_uri" "ambiguous additional '@' in workflow identity".toList)
  ensure (gitRef ≠ []) (malformedClaim "san_uri" "empty revision after '@'".toList)
  let parts := splitN '/' 3 repoAndPath
  let owner ← okOr (nonEmptyPart parts[0]?)
    (malformedClaim "san_uri" "missing repository owner".toList)
  let name ← okOr (nonEmptyPart parts[1]?)
    (malformedClaim "san_uri" "missing repository name".toList)
  let workflowPath ← okOr parts[2]? (malformedClaim "san_uri" "missing workflow path".toList)
  ensure (workflowPathPrefix <+: workflowPath) (malformedClaim "san_uri"
    ("workflow path does not start with \"".toList ++ workflowPathPrefix ++ ['"']))
  pure ⟨owner, name, workflowPath, gitRef⟩

/-- A repository as it is reported. -/
def ownerSlashName (owner name : Str) : Str := owner ++ '/' :: name

/-- `https://github.com/{owner}/{name}`. -/
structure IsGithubRepoUri (uri owner name : Str) : Prop where
  spelled : uri = githubUriPrefix ++ ownerSlashName owner name
  owner_ne : owner ≠ []
  name_ne : name ≠ []
  owner_slash : '/' ∉ owner
  name_slash : '/' ∉ name

/-- `https://github.com/{owner}/{name}/{workflow_path}@{ref}`. -/
structure IsSignerUri (uri : Str) (parts : SignerUriParts) : Prop where
  spelled : uri = githubUriPrefix ++
    (ownerSlashName parts.owner (ownerSlashName parts.name parts.workflowPath) ++
      '@' :: parts.gitRef)
  owner_ne : parts.owner ≠ []
  name_ne : parts.name ≠ []
  owner_slash : '/' ∉ parts.owner
  name_slash : '/' ∉ parts.name
  path_prefix : workflowPathPrefix <+: parts.workflowPath
  path_at : '@' ∉ ownerSlashName parts.owner (ownerSlashName parts.name parts.workflowPath)
  ref_ne : parts.gitRef ≠ []
  ref_at : '@' ∉ parts.gitRef

/-- The URIs taken are those of the grammar. -/
theorem parseGithubRepoUri_eq_ok {uri owner name : Str} {claim : String} :
    parseGithubRepoUri uri claim = .ok (owner, name) ↔ IsGithubRepoUri uri owner name := by
  simp only [parseGithubRepoUri, bind_eq_ok, okOr_eq_ok, ensure_eq_ok, pure_eq_ok,
    Except.ok.injEq, stripPrefix_eq_some, splitOnce_eq_some, Prod.exists, Prod.mk.injEq]
  constructor
  · intro h
    obtain ⟨_, rfl, _, _, ⟨rfl, hslash⟩, _, ⟨howner, hname⟩, _, hname', rfl, rfl⟩ := h
    exact ⟨rfl, howner, hname, hslash, hname'⟩
  · intro h
    obtain ⟨rfl, howner, hname, hslash, hname'⟩ := h
    exact ⟨_, rfl, owner, name, ⟨rfl, hslash⟩, (), ⟨howner, hname⟩, (), hname', rfl, rfl⟩

/-- A part that is there and not empty. -/
theorem nonEmptyPart_eq_some {part : Option Str} {s : Str} :
    nonEmptyPart part = some s ↔ part = some s ∧ s ≠ [] := by
  simp [nonEmptyPart, Option.filter_eq_some_iff]

/-- The three parts of `splitn(3, sep)`. -/
theorem splitN_three_eq {sep : Char} {s a b c : Str} :
    (splitN sep 3 s)[0]? = some a ∧ (splitN sep 3 s)[1]? = some b ∧
        (splitN sep 3 s)[2]? = some c ↔
      s = a ++ sep :: (b ++ sep :: c) ∧ sep ∉ a ∧ sep ∉ b := by
  constructor
  · simp only [splitN]
    split
    · rename_i x y hxy
      split
      · rename_i z w hzw
        obtain ⟨rfl, hx⟩ := splitOnce_eq_some.mp hxy
        obtain ⟨rfl, hz⟩ := splitOnce_eq_some.mp hzw
        rintro ⟨⟨rfl⟩, ⟨rfl⟩, ⟨rfl⟩⟩
        exact ⟨rfl, hx, hz⟩
      · -- one separator, and no third part
        rintro ⟨-, -, ⟨⟩⟩
    · rintro ⟨-, -, ⟨⟩⟩
  · intro h
    obtain ⟨rfl, ha, hb⟩ := h
    simp [splitN, splitOnce_append _ ha, splitOnce_append _ hb]

/-- The SANs taken are those of the grammar. -/
theorem parseSignerSanUri_eq_ok {uri : Str} {parts : SignerUriParts} :
    parseSignerSanUri uri = .ok parts ↔ IsSignerUri uri parts := by
  obtain ⟨owner, name, workflowPath, gitRef⟩ := parts
  simp only [parseSignerSanUri, bind_eq_ok, okOr_eq_ok, ensure_eq_ok, pure_eq_ok,
    Except.ok.injEq, stripPrefix_eq_some, splitOnce_eq_some, Prod.exists, nonEmptyPart_eq_some,
    SignerUriParts.mk.injEq]
  constructor
  · intro h
    obtain ⟨_, rfl, repoAndPath, _, ⟨rfl, hat⟩, _, hrefAt, _, href, _, ⟨hfirst, howner⟩, _,
      ⟨hsecond, hname⟩, _, hthird, _, hrefs, rfl, rfl, rfl, rfl⟩ := h
    -- left of the `@`, the three parts of the split are the owner, the name and the path
    obtain ⟨rfl, hownerSlash, hnameSlash⟩ := splitN_three_eq.mp ⟨hfirst, hsecond, hthird⟩
    exact ⟨rfl, howner, hname, hownerSlash, hnameSlash, hrefs, hat, href, hrefAt⟩
  · intro h
    obtain ⟨rfl, howner, hname, hownerSlash, hnameSlash, hrefs, hat, href, hrefAt⟩ := h
    obtain ⟨hfirst, hsecond, hthird⟩ := splitN_three_eq.mpr ⟨rfl, hownerSlash, hnameSlash⟩
    exact ⟨_, rfl, _, gitRef, ⟨rfl, hat⟩, (), hrefAt, (), href, owner, ⟨hfirst, howner⟩, name,
      ⟨hsecond, hname⟩, workflowPath, hthird, (), hrefs, rfl, rfl, rfl, rfl⟩

/-- `https://github.com/{owner}/{name}/{workflow_path}@{ref}`, as one text. -/
def SignerUriParts.render (parts : SignerUriParts) : Str :=
  githubUriPrefix ++ parts.owner ++ '/' :: parts.name ++ '/' :: parts.workflowPath ++
    '@' :: parts.gitRef

/-- Parts a signer URI can be written from. -/
structure SignerUriParts.WellFormed (parts : SignerUriParts) : Prop where
  owner_ne : parts.owner ≠ []
  owner_slash : '/' ∉ parts.owner
  owner_at : '@' ∉ parts.owner
  name_ne : parts.name ≠ []
  name_slash : '/' ∉ parts.name
  name_at : '@' ∉ parts.name
  path_prefix : workflowPathPrefix <+: parts.workflowPath
  path_at : '@' ∉ parts.workflowPath
  ref_ne : parts.gitRef ≠ []
  ref_at : '@' ∉ parts.gitRef

/-- The `@` is split off before the slashes are: no part left of it has one. -/
theorem isSignerUri_iff {uri : Str} {parts : SignerUriParts} :
    IsSignerUri uri parts ↔ parts.WellFormed ∧ uri = parts.render := by
  have hslash : ('@' : Char) ≠ '/' := by decide
  have hrender : parts.render = githubUriPrefix ++
      (ownerSlashName parts.owner (ownerSlashName parts.name parts.workflowPath) ++
        '@' :: parts.gitRef) := by
    simp [SignerUriParts.render, ownerSlashName]
  rw [hrender]
  constructor
  · intro h
    have hat := h.path_at
    simp only [ownerSlashName, List.mem_append, List.mem_cons, not_or] at hat
    -- the text before the first `@` holds the three parts
    obtain ⟨hownerAt, -, hnameAt, -, hpathAt⟩ := hat
    exact ⟨⟨h.owner_ne, h.owner_slash, hownerAt, h.name_ne, h.name_slash, hnameAt, h.path_prefix,
      hpathAt, h.ref_ne, h.ref_at⟩, h.spelled⟩
  · intro h
    obtain ⟨hparts, huri⟩ := h
    have hat : '@' ∉ ownerSlashName parts.owner (ownerSlashName parts.name parts.workflowPath) := by
      simp only [ownerSlashName, List.mem_append, List.mem_cons, not_or]
      exact ⟨hparts.owner_at, hslash, hparts.name_at, hslash, hparts.path_at⟩
    exact ⟨huri, hparts.owner_ne, hparts.name_ne, hparts.owner_slash, hparts.name_slash,
      hparts.path_prefix, hat, hparts.ref_ne, hparts.ref_at⟩

/-- **The identity grammars are exact and unambiguous.**  The signer URIs are the renderings of
    well-formed parts, the repository URIs those of a slash-free owner and name; what is parsed is
    the one such reading of the text. -/
theorem identityUris_spec (uri : Str) (claim : String) :
    ((∃ parts, parseSignerSanUri uri = .ok parts) ↔
      ∃ parts : SignerUriParts, parts.WellFormed ∧ uri = parts.render) ∧
    (∀ parts, parseSignerSanUri uri = .ok parts ↔ parts.WellFormed ∧ uri = parts.render) ∧
    (∀ parts parts' : SignerUriParts, parts.WellFormed → parts'.WellFormed →
      parts.render = parts'.render → parts = parts') ∧
    (∀ owner name, parseGithubRepoUri uri claim = .ok (owner, name) ↔
      uri = githubUriPrefix ++ owner ++ '/' :: name ∧ owner ≠ [] ∧ '/' ∉ owner ∧
        name ≠ [] ∧ '/' ∉ name) ∧
    (∀ owner name owner' name' : Str, '/' ∉ owner → '/' ∉ owner' →
      githubUriPrefix ++ owner ++ '/' :: name = githubUriPrefix ++ owner' ++ '/' :: name' →
      owner = owner' ∧ name = name') := by
  have hsigner (text : Str) (parts : SignerUriParts) :
      parseSignerSanUri text = .ok parts ↔ parts.WellFormed ∧ text = parts.render :=
    parseSignerSanUri_eq_ok.trans isSignerUri_iff
  refine ⟨exists_congr (hsigner uri), hsigner uri, ?_, ?_, ?_⟩
  · intro parts parts' h h' hrender
    -- the text of the two is parsed once
    have hparse := (hsigner parts.render parts).mpr ⟨h, rfl⟩
    have hparse' := (hsigner parts.render parts').mpr ⟨h', hrender⟩
    exact Except.ok.inj (hparse.symm.trans hparse')
  · intro owner name
    rw [parseGithubRepoUri_eq_ok, List.append_assoc]
    constructor
    · intro h
      exact ⟨h.spelled, h.owner_ne, h.owner_slash, h.name_ne, h.name_slash⟩
    · intro h
      obtain ⟨huri, howner, hownerSlash, hname, hnameSlash⟩ := h
      exact ⟨huri, howner, hname, hownerSlash, hnameSlash⟩
  · intro owner name owner' name' howner howner' huri
    rw [List.append_assoc, List.append_assoc] at huri
    -- the owner ends at the first slash
    have hsplit := congrArg (splitOnce '/') (List.append_cancel_left huri)
    rw [splitOnce_append name howner, splitOnce_append name' howner'] at hsplit
    simpa using hsplit

/-! ### The checks -/

/-- Owner and name agree up to ASCII letter case. -/
def checkRepositoryMatch (owner name : Str) (expected : RepositoryIdentity)
    (makeErr : Str → Str → PolicyError) : Except Error Unit :=
  ensure (eqIgnoreAsciiCase owner expected.owner ∧ eqIgnoreAsciiCase name expected.name)
    (.policy (makeErr (ownerSlashName expected.owner expected.name) (ownerSlashName owner name)))

/-- A pinned id is required of the claim, as a decimal. -/
def checkPinnedId (expected : Option UInt64) (foundClaim : Option Str) (claimName : String)
    (makeErr : Str → Str → PolicyError) : Except Error Unit :=
  match expected with
  | none => .ok ()
  | some expectedId => do
    let found ← requireClaim foundClaim claimName
    ensure (found = decimal expectedId.toNat) (.policy (makeErr (decimal expectedId.toNat) found))

/-- `*` is the wildcard. -/
def globMatch (pattern text : Str) : Bool := Glob.run 42 (utf8 pattern) (utf8 text) none

/-- The ref is the one asked for, or matches the pattern. -/
def checkRefPolicy (foundRef : Str) (policy : RefPolicy) : Except Error Unit :=
  match policy with
  | .exact expected =>
    ensure (foundRef = expected) (.policy (.sourceRefMismatch expected foundRef))
  | .glob pattern =>
    ensure (globMatch pattern foundRef) (.policy (.sourceRefMismatch pattern foundRef))

/-- A pinned commit is required of the claim, in hex of either case. -/
def checkSourceCommit (claims : FulcioClaims) (commit : Option CommitSha) : Except Error Unit :=
  match commit with
  | none => .ok ()
  | some expectedCommit => do
    let found ← requireClaim claims.sourceRepositoryDigest "source_repository_digest"
    ensure (eqIgnoreAsciiCase found expectedCommit.toHex)
      (.policy (.sourceCommitMismatch expectedCommit.toHex found))

/-- The revision is the one asked for, by ref or by the signer's digest. -/
def checkSignerRevision (claims : FulcioClaims) (signer : SignerUriParts)
    (policy : WorkflowRevisionPolicy) : Except Error Unit :=
  match policy with
  | .any => .ok ()
  | .ref expectedRef =>
    ensure (signer.gitRef = expectedRef)
      (.policy (.signerRevisionMismatch expectedRef signer.gitRef))
  | .sha expectedSha => do
    let found ← requireClaim claims.buildSignerDigest "build_signer_digest"
    ensure (eqIgnoreAsciiCase found expectedSha.toHex)
      (.policy (.signerRevisionMismatch expectedSha.toHex found))

/-- `match_policy`: the issuer, the source, then the signer. -/
def matchPolicy (claims : FulcioClaims) (policy : GithubPolicy) :
    Except Error MatchedIdentity := do
  let issuer ← requireClaim claims.issuer "issuer"
  ensure (issuer = expectedIssuer) (.policy (.issuerMismatch expectedIssuer issuer))
  -- the source: its repository, pinned ids, ref and pinned commit
  let sourceUri ← requireClaim claims.sourceRepositoryUri "source_repository_uri"
  let (sourceOwner, sourceName) ← parseGithubRepoUri sourceUri "source_repository_uri"
  checkRepositoryMatch sourceOwner sourceName policy.source.repository .sourceRepositoryMismatch
  checkPinnedId policy.source.repository.ownerId claims.sourceRepositoryOwnerId
    "source_repository_owner_id" .sourceOwnerIdMismatch
  checkPinnedId policy.source.repository.repositoryId claims.sourceRepositoryId
    "source_repository_id" .sourceRepositoryIdMismatch
  let sourceRef ← requireClaim claims.sourceRepositoryRef "source_repository_ref"
  checkRefPolicy sourceRef policy.source.gitRef
  checkSourceCommit claims policy.source.commit
  -- the signer: its repository, workflow file and revision
  let sanUri ← requireClaim claims.sanUri "san_uri"
  let signer ← parseSignerSanUri sanUri
  checkRepositoryMatch signer.owner signer.name policy.signer.repository
    .signerRepositoryMismatch
  ensure (signer.workflowPath = policy.signer.path.path)
    (.policy (.signerWorkflowPathMismatch policy.signer.path.path signer.workflowPath))
  checkSignerRevision claims signer policy.signer.revision
  pure
    { issuer
      sourceRepository := ownerSlashName sourceOwner sourceName
      sourceRef
      signerRepository := ownerSlashName signer.owner signer.name
      signerWorkflowPath := signer.workflowPath }

/-! ### What a match says -/

/-- The repository of the policy, up to letter case. -/
def SameRepository (owner name : Str) (expected : RepositoryIdentity) : Prop :=
  eqIgnoreAsciiCase owner expected.owner ∧ eqIgnoreAsciiCase name expected.name

/-- A pinned id, in canonical decimal, is the claim. -/
def SatisfiesId (pinned : Option UInt64) (claim : Option Str) : Prop :=
  ∀ id ∈ pinned, claim = some (decimal id.toNat)

/-- A pinned commit, in hex of either case, is the claim. -/
def SatisfiesCommit (pinned : Option CommitSha) (claim : Option Str) : Prop :=
  ∀ commit ∈ pinned, ∃ found ∈ claim, eqIgnoreAsciiCase found commit.toHex

/-- A ref that a ref policy accepts. -/
def SatisfiesRef (ref : Str) : RefPolicy → Prop
  | .exact expected => ref = expected
  | .glob pattern => Glob.Matches 42 (utf8 pattern) (utf8 ref)

/-- A revision that a revision policy accepts. -/
def SatisfiesRevision (gitRef : Str) (buildSignerDigest : Option Str) :
    WorkflowRevisionPolicy → Prop
  | .any => True
  | .ref expected => gitRef = expected
  | .sha expected => SatisfiesCommit (some expected) buildSignerDigest

/-- The claims are those of a build the policy allows: of the source `owner`/`name` at `ref`, signed
    by the workflow `signer`. -/
structure Satisfies (policy : GithubPolicy) (claims : FulcioClaims) (owner name ref : Str)
    (signer : SignerUriParts) : Prop where
  issuer : claims.issuer = some expectedIssuer
  sourceUri : ∃ uri ∈ claims.sourceRepositoryUri, IsGithubRepoUri uri owner name
  sourceRepository : SameRepository owner name policy.source.repository
  sourceOwnerId : SatisfiesId policy.source.repository.ownerId claims.sourceRepositoryOwnerId
  sourceRepositoryId :
    SatisfiesId policy.source.repository.repositoryId claims.sourceRepositoryId
  sourceRef : claims.sourceRepositoryRef = some ref
  sourceRefPolicy : SatisfiesRef ref policy.source.gitRef
  sourceCommit : SatisfiesCommit policy.source.commit claims.sourceRepositoryDigest
  signerUri : ∃ uri ∈ claims.sanUri, IsSignerUri uri signer
  signerRepository : SameRepository signer.owner signer.name policy.signer.repository
  signerPath : signer.workflowPath = policy.signer.path.path
  signerRevision :
    SatisfiesRevision signer.gitRef claims.buildSignerDigest policy.signer.revision

/-- The identity reported for such claims, as the certificate spells it. -/
def MatchedIdentity.of (owner name ref : Str) (signer : SignerUriParts) : MatchedIdentity where
  issuer := expectedIssuer
  sourceRepository := ownerSlashName owner name
  sourceRef := ref
  signerRepository := ownerSlashName signer.owner signer.name
  signerWorkflowPath := signer.workflowPath

/-- The two-pointer loop decides the match. -/
theorem globMatch_iff {pattern text : Str} :
    globMatch pattern text = true ↔ Glob.Matches 42 (utf8 pattern) (utf8 text) := Glob.run_iff

/-- **Globs match characters.**  The search over bytes accepts exactly the texts had by replacing
    each `*` of the pattern by some text. -/
theorem globMatch_iff_fill (pattern text : Str) :
    (globMatch pattern text = true ↔
      ∃ us : List Str, us.length = pattern.count '*' ∧ text = Glob.fill '*' pattern us) ∧
    ('*' ∉ pattern → (globMatch pattern text = true ↔ text = pattern)) := by
  -- the wildcard is one byte, which no other character's encoding contains
  have hstar : String.utf8EncodeChar '*' = [42] := by decide
  rw [globMatch_iff, Glob.matches_utf8_iff hstar]
  exact ⟨Glob.matches_iff_fill, Glob.matches_of_not_mem⟩

/-- A pinned id is satisfied, or none is pinned. -/
theorem checkPinnedId_eq_ok {pinned : Option UInt64} {claim : Option Str} {claimName : String}
    {makeErr : Str → Str → PolicyError} {u : Unit} :
    checkPinnedId pinned claim claimName makeErr = .ok u ↔ SatisfiesId pinned claim := by
  cases pinned with
  | none => simp [checkPinnedId, SatisfiesId]
  | some id => simp [checkPinnedId, SatisfiesId, requireClaim, bind_eq_ok]

/-- A pinned commit is satisfied, or none is pinned. -/
theorem checkSourceCommit_eq_ok {claims : FulcioClaims} {commit : Option CommitSha} {u : Unit} :
    checkSourceCommit claims commit = .ok u ↔
      SatisfiesCommit commit claims.sourceRepositoryDigest := by
  cases commit with
  | none => simp [checkSourceCommit, SatisfiesCommit]
  | some commit => simp [checkSourceCommit, SatisfiesCommit, requireClaim, bind_eq_ok]

/-- A ref passes when the policy accepts it. -/
theorem checkRefPolicy_eq_ok {ref : Str} {policy : RefPolicy} {u : Unit} :
    checkRefPolicy ref policy = .ok u ↔ SatisfiesRef ref policy := by
  cases policy with
  | exact expected => simp [checkRefPolicy, SatisfiesRef]
  | glob pattern =>
    simp only [checkRefPolicy, ensure_eq_ok, SatisfiesRef]
    exact globMatch_iff

/-- A revision passes when the policy accepts it. -/
theorem checkSignerRevision_eq_ok {claims : FulcioClaims} {signer : SignerUriParts}
    {policy : WorkflowRevisionPolicy} {u : Unit} :
    checkSignerRevision claims signer policy = .ok u ↔
      SatisfiesRevision signer.gitRef claims.buildSignerDigest policy := by
  cases policy with
  | any => simp [checkSignerRevision, SatisfiesRevision]
  | ref expected => simp [checkSignerRevision, SatisfiesRevision]
  | sha expected =>
    simp [checkSignerRevision, SatisfiesRevision, SatisfiesCommit, requireClaim, bind_eq_ok]

/-- The policy accepts claims that satisfy it, and returns what they say. -/
theorem matchPolicy_eq_ok {claims : FulcioClaims} {policy : GithubPolicy}
    {identity : MatchedIdentity} :
    matchPolicy claims policy = .ok identity ↔
      ∃ owner name ref signer, Satisfies policy claims owner name ref signer ∧
        identity = .of owner name ref signer := by
  simp only [matchPolicy, requireClaim, checkRepositoryMatch, bind_eq_ok, okOr_eq_ok,
    ensure_eq_ok, pure_eq_ok, Except.ok.injEq, Prod.exists, parseGithubRepoUri_eq_ok,
    parseSignerSanUri_eq_ok, checkPinnedId_eq_ok, checkSourceCommit_eq_ok, checkRefPolicy_eq_ok,
    checkSignerRevision_eq_ok]
  constructor
  · -- what each check of the sequence establishes is a field of `Satisfies`
    intro h
    obtain ⟨_, hissuer, _, rfl, uri, huri, owner, name, hrepo, _, hsame, _, hownerId, _, hrepoId,
      ref, href, _, hrefPolicy, _, hcommit, sanUri, hsan, signer, hsigner, _, hsignerSame, _,
      hpath, _, hrevision, rfl⟩ := h
    exact ⟨owner, name, ref, signer,
      { issuer := hissuer
        sourceUri := ⟨uri, huri, hrepo⟩
        sourceRepository := hsame
        sourceOwnerId := hownerId
        sourceRepositoryId := hrepoId
        sourceRef := href
        sourceRefPolicy := hrefPolicy
        sourceCommit := hcommit
        signerUri := ⟨sanUri, hsan, hsigner⟩
        signerRepository := hsignerSame
        signerPath := hpath
        signerRevision := hrevision }, rfl⟩
  · intro h
    obtain ⟨owner, name, ref, signer, h, rfl⟩ := h
    obtain ⟨uri, huri, hrepo⟩ := h.sourceUri
    obtain ⟨sanUri, hsan, hsigner⟩ := h.signerUri
    exact ⟨expectedIssuer, h.issuer, (), rfl, uri, huri, owner, name, hrepo, (),
      h.sourceRepository, (), h.sourceOwnerId, (), h.sourceRepositoryId, ref, h.sourceRef, (),
      h.sourceRefPolicy, (), h.sourceCommit, sanUri, hsan, signer, hsigner, (),
      h.signerRepository, (), h.signerPath, (), h.signerRevision, rfl⟩

/-! ### One policy, one workflow -/

/-- Two accepted claim sets name one build: the same strings, repositories up to ASCII case. -/
structure SameWorkflow (claims claims' : FulcioClaims) (identity identity' : MatchedIdentity) :
    Prop where
  issuer : identity.issuer = identity'.issuer
  sourceRepository : eqIgnoreAsciiCase identity.sourceRepository identity'.sourceRepository
  sourceRef : identity.sourceRef = identity'.sourceRef
  signerRepository : eqIgnoreAsciiCase identity.signerRepository identity'.signerRepository
  signerWorkflowPath : identity.signerWorkflowPath = identity'.signerWorkflowPath
  signerRevision : ∃ uri ∈ claims.sanUri, ∃ uri' ∈ claims'.sanUri, ∃ signer signer',
    IsSignerUri uri signer ∧ IsSignerUri uri' signer' ∧ signer.gitRef = signer'.gitRef

/-- Two names of one repository agree up to letter case. -/
theorem SameRepository.ownerSlashName {owner name owner' name' : Str}
    {expected : RepositoryIdentity} (h : SameRepository owner name expected)
    (h' : SameRepository owner' name' expected) :
    eqIgnoreAsciiCase (ownerSlashName owner name) (ownerSlashName owner' name') := by
  have howner := h.1.trans h'.1.symm
  have hname := h.2.trans h'.2.symm
  simp only [eqIgnoreAsciiCase] at howner hname
  simp [eqIgnoreAsciiCase, AttestationVerify.ownerSlashName, howner, hname]

/-- An exact ref and a pinned workflow ref leave one workflow. -/
theorem sameWorkflow_of_matchPolicy {claims claims' : FulcioClaims} {policy : GithubPolicy}
    {identity identity' : MatchedIdentity} {ref revision : Str}
    (href : policy.source.gitRef = .exact ref) (hrevision : policy.signer.revision = .ref revision)
    (h : matchPolicy claims policy = .ok identity)
    (h' : matchPolicy claims' policy = .ok identity') :
    SameWorkflow claims claims' identity identity' := by
  obtain ⟨owner, name, sourceRef, signer, hs, rfl⟩ := matchPolicy_eq_ok.mp h
  obtain ⟨owner', name', sourceRef', signer', hs', rfl⟩ := matchPolicy_eq_ok.mp h'
  -- both sides have the policy's own ref and revision
  have hsourceRef : sourceRef = ref := by simpa [href, SatisfiesRef] using hs.sourceRefPolicy
  have hsourceRef' : sourceRef' = ref := by simpa [href, SatisfiesRef] using hs'.sourceRefPolicy
  have hgitRef : signer.gitRef = revision := by
    simpa [hrevision, SatisfiesRevision] using hs.signerRevision
  have hgitRef' : signer'.gitRef = revision := by
    simpa [hrevision, SatisfiesRevision] using hs'.signerRevision
  obtain ⟨uri, huri, hsigner⟩ := hs.signerUri
  obtain ⟨uri', huri', hsigner'⟩ := hs'.signerUri
  exact
    { issuer := rfl
      sourceRepository := hs.sourceRepository.ownerSlashName hs'.sourceRepository
      sourceRef := hsourceRef.trans hsourceRef'.symm
      signerRepository := hs.signerRepository.ownerSlashName hs'.signerRepository
      signerWorkflowPath := hs.signerPath.trans hs'.signerPath.symm
      signerRevision := ⟨uri, huri, uri', huri', signer, signer', hsigner, hsigner',
        hgitRef.trans hgitRef'.symm⟩ }

/-- The claims with those no policy speaks of replaced. -/
def FulcioClaims.withUnread (claims other : FulcioClaims) : FulcioClaims :=
  { claims with
    buildSignerUri := other.buildSignerUri
    runnerEnvironment := other.runnerEnvironment
    sourceRepositoryOwnerUri := other.sourceRepositoryOwnerUri
    buildConfigUri := other.buildConfigUri
    buildConfigDigest := other.buildConfigDigest
    buildTrigger := other.buildTrigger
    runInvocationUri := other.runInvocationUri }

/-- **Policy matching is exact.**  It succeeds precisely on the claims that satisfy the policy,
    reports the identity as the certificate spells it, reads no other claim, and under an exact ref
    and a pinned workflow ref accepts one workflow only. -/
theorem matchPolicy_spec (claims : FulcioClaims) (policy : GithubPolicy) :
    (∀ identity, matchPolicy claims policy = .ok identity ↔
      ∃ owner name ref signer, Satisfies policy claims owner name ref signer ∧
        identity = .of owner name ref signer) ∧
    (∀ other, matchPolicy (claims.withUnread other) policy = matchPolicy claims policy) ∧
    ∀ claims' identity identity' ref revision, policy.source.gitRef = .exact ref →
      policy.signer.revision = .ref revision → matchPolicy claims policy = .ok identity →
      matchPolicy claims' policy = .ok identity' →
      SameWorkflow claims claims' identity identity' :=
  ⟨fun _ => matchPolicy_eq_ok, fun _ => rfl, fun _ _ _ _ _ href hrevision h h' =>
    sameWorkflow_of_matchPolicy href hrevision h h'⟩

end AttestationVerify
