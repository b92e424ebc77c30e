import AttestationVerify.Client.Host
import AttestationVerify.JsonLines
import AttestationVerify.Relaxation

namespace AttestationVerify

open Wire Wire.CommandLine Wire.Builder

/-!
# The example client

`examples/verify.rs`: one artifact or digest against one bundle and a policy put together from
options.

* `Example.Names`, `Example.Holds` — the subject the options name, and the bundle a file holds: a
  document, or the one line of a container;
* `Example.Asks`, `Example.satisfies_iff` — what the options ask of a certificate, and the claims
  that meet the policy of that;
* `Example.verify_spec` — when the client prints a report, and which.
-/

namespace Example

/-! ### Arguments -/

/-- The options of the example, all of which take a value. -/
inductive Flag
  | artifact
  | digest
  | bundle
  | repo
  | ownerId
  | repoId
  | sourceRef
  | signerWorkflow
  | checkpointOrigin
  deriving DecidableEq

/-- All of them, in the order of the source. -/
def Flag.all : List Flag :=
  [.artifact, .digest, .bundle, .repo, .ownerId, .repoId, .sourceRef, .signerWorkflow,
    .checkpointOrigin]

/-- How an option is written. -/
def Flag.text : Flag → Str
  | .artifact => "--artifact".toList
  | .digest => "--digest".toList
  | .bundle => "--bundle".toList
  | .repo => "--repo".toList
  | .ownerId => "--owner-id".toList
  | .repoId => "--repo-id".toList
  | .sourceRef => "--source-ref".toList
  | .signerWorkflow => "--signer-workflow".toList
  | .checkpointOrigin => "--checkpoint-origin".toList

/-- No option is forgotten. -/
theorem Flag.mem_all (flag : Flag) : flag ∈ Flag.all := by cases flag <;> decide

/-- No two options are written alike. -/
theorem Flag.text_injective : Function.Injective Flag.text := by
  have hall : ∀ f ∈ Flag.all, ∀ g ∈ Flag.all, f.text = g.text → f = g := by decide +kernel
  exact fun f g => hall f f.mem_all g g.mem_all

/-- The variables the loop of `run` fills. -/
structure Options where
  artifact : Option Str
  digest : Option Str
  bundlePath : Option Str
  repo : Option Str
  ownerId : Option UInt64
  repoId : Option UInt64
  sourceRef : Option Str
  signerWorkflow : Option Str
  checkpointOrigin : Option Str
  deriving DecidableEq

/-- No option given yet. -/
def Options.empty : Options := ⟨none, none, none, none, none, none, none, none, none⟩

/-- The value given last stays; the two ids have to be numbers. -/
def Options.set (options : Options) (value : Str) : Flag → Except ClientError Options
  | .artifact => .ok { options with artifact := some value }
  | .digest => .ok { options with digest := some value }
  | .bundle => .ok { options with bundlePath := some value }
  | .repo => .ok { options with repo := some value }
  | .ownerId => do
    let id ← okOr (parseU64 value) .integer
    pure { options with ownerId := some id }
  | .repoId => do
    let id ← okOr (parseU64 value) .integer
    pure { options with repoId := some id }
  | .sourceRef => .ok { options with sourceRef := some value }
  | .signerWorkflow => .ok { options with signerWorkflow := some value }
  | .checkpointOrigin => .ok { options with checkpointOrigin := some value }

/-- How the argument loop takes an option. -/
def reader : Reader Str Flag Options ClientError where
  option := optionOf Flag.all Flag.text
  text := Flag.text
  option_eq_some := optionOf_eq_some Flag.mem_all Flag.text_injective
  value flag value options := options.set value flag
  missing flag := missingValue flag.text
  word argument _ := .error (.message ("unknown argument: ".toList ++ argument))

/-! ### The parts of a verification -/

/-- The subject is a file's hash or a digest, and not both. -/
def subjectOf (host : Host) : Option Str → Option Str → Except ClientError Subject
  | some path, none => do
    let bytes ← host.readFile path
    pure (Subject.sha256Of host.externals bytes)
  | none, some hex => orFail (Subject.fromDigestHex hex)
  | some _, some _ =>
    .error (.message "pass exactly one of --artifact or --digest, not both".toList)
  | none, none => .error (.message "pass one of --artifact <path> or --digest <hex>".toList)

/-- A bare bundle document, or else a container of exactly one. -/
def loadBundle (host : Host) (bytes : Bytes) : Except ClientError Bundle :=
  match Bundle.fromJson host.externals bytes with
  | .ok bundle => .ok bundle
  | .error _ => do
    let set ← orFail (BundleSet.fromJsonLines host.externals bytes)
    match set.bundles with
    | [bundle] => .ok bundle
    | bundles => .error (.message
        ("expected exactly 1 bundle in JSONL --bundle input, got ".toList ++
          decimal bundles.length))

/-- The repository with the ids that are given. -/
def Options.pin (options : Options) (repository : RepositoryIdentity) : RepositoryIdentity :=
  let repository := options.ownerId.elim repository repository.withOwnerId
  options.repoId.elim repository repository.withRepositoryId

/-- The ids are pinned for the source only. -/
def policyOf (host : Host) (options : Options) (repo signerWorkflow : Str) :
    Except ClientError GithubPolicy := do
  let signerRepository ← orFail (RepositoryIdentity.parse host.debug repo)
  let repository ← orFail (RepositoryIdentity.parse host.debug repo)
  let gitRef := options.sourceRef.elim (.glob ['*']) .exact
  let path ← orFail (WorkflowPath.new signerWorkflow)
  orFail ((((⟨none, none⟩ : GithubPolicyBuilder).setSource
    ⟨options.pin repository, gitRef, none⟩).setSigner ⟨signerRepository, path, .any⟩).build)

/-- `print_report`. -/
def reportText (report : VerificationReport) : Str :=
  "verified: subject ".toList ++ report.subject.digest.toHex ++
    report.subject.name.elim [] (fun name => " (".toList ++ name ++ ")".toList) ++
    "\n  source:  ".toList ++ report.signer.sourceRepository ++ " @ ".toList ++
    report.signer.sourceRef ++
    "\n  signer:  ".toList ++ report.signer.signerRepository ++ " ".toList ++
    report.signer.signerWorkflowPath ++
    "\n  transparency: integratedTime=".toList ++
    decimal report.transparency.integratedTime.toNat ++ " logIndex=".toList ++
    decimal report.transparency.logIndex.toNat ++
    "\n  trust root:   ".toList ++ report.trust.source ++ " ".toList ++
    report.trust.fingerprint ++ "\n".toList

/-- On success, what is printed. -/
def run (host : Host) (args : List Str) : Except ClientError Str := do
  let options ← reader.run args .empty
  let subject ← subjectOf host options.artifact options.digest
  let bundlePath ← okOr options.bundlePath (.message "missing required --bundle <path>".toList)
  let repo ← okOr options.repo (.message "missing required --repo <owner/name>".toList)
  let signerWorkflow ← okOr options.signerWorkflow
    (.message "missing required --signer-workflow <path>".toList)
  let checkpointOrigin ← okOr options.checkpointOrigin
    (.message "missing required --checkpoint-origin <origin>".toList)
  let bytes ← host.readFile bundlePath
  let bundle ← loadBundle host bytes
  let policy ← policyOf host options repo signerWorkflow
  let trustStore ← orFail (TrustStore.embeddedPublicGood host.externals host.embedded)
  let log ← okOr trustStore.tlogs.head?
    (.message "embedded trust root has no Rekor log".toList)
  let checkpointOriginPolicy ← orFail (singleOriginPolicy host.externals log checkpointOrigin)
  let verifier ← orFail (clientVerifier host.externals trustStore policy checkpointOriginPolicy)
  let report ← orFail (verifier.verifyDigest subject bundle)
  pure (reportText report)

/-! ### Subject and bundle -/

variable {host : Host}

/-- Exactly one of the two options is there, and has a subject. -/
inductive Names (host : Host) : Option Str → Option Str → Subject → Prop
  | artifact {path : Str} {bytes : Bytes} (read : host.read path = some bytes) :
      Names host (some path) none (Subject.sha256Of host.externals bytes)
  | digest {hex : Str} {subject : Subject} (parsed : Subject.fromDigestHex hex = .ok subject) :
      Names host none (some hex) subject

/-- A subject is found exactly when one is named. -/
theorem subjectOf_eq_ok {artifact digest : Option Str} {subject : Subject} :
    subjectOf host artifact digest = .ok subject ↔ Names host artifact digest subject := by
  constructor
  · intro h
    cases artifact with
    | some path =>
      cases digest with
      | some hex => cases h
      | none =>
        simp only [subjectOf, bind_eq_ok, readFile_eq_ok, pure_eq_ok, Except.ok.injEq] at h
        obtain ⟨bytes, hread, rfl⟩ := h
        exact .artifact hread
    | none =>
      cases digest with
      | some hex => exact .digest (orFail_eq_ok.mp h)
      | none => cases h
  · intro h
    cases h with
    | artifact hread =>
      exact bind_eq_ok.mpr ⟨_, readFile_eq_ok.mpr hread, rfl⟩
    | digest hparsed => exact orFail_eq_ok.mpr hparsed

/-- The text is a bundle, or else has one line that is not blank, and that is one. -/
inductive Holds (X : Externals) (bytes : Bytes) (bundle : Bundle) : Prop
  | document (parsed : Bundle.fromJson X bytes = .ok bundle)
  | container {line : Bytes} (noDocument : ∀ other, Bundle.fromJson X bytes ≠ .ok other)
      (size : bytes.length ≤ maxInputBytes) (only : bundleLines bytes = [line])
      (parsed : Bundle.fromJson X line = .ok bundle)

/-- A bundle is loaded exactly when the file holds one. -/
theorem loadBundle_eq_ok {bytes : Bytes} {bundle : Bundle} :
    loadBundle host bytes = .ok bundle ↔ Holds host.externals bytes bundle := by
  unfold loadBundle
  cases hdocument : Bundle.fromJson host.externals bytes with
  | ok found =>
    constructor
    · intro h
      rw [Except.ok.inj h] at hdocument
      exact .document hdocument
    · intro h
      cases h with
      | document hparsed => rw [Except.ok.inj (hdocument.symm.trans hparsed)]
      | container hnone => exact absurd hdocument (hnone found)
  | error e =>
    have hnone (other : Bundle) : Bundle.fromJson host.externals bytes ≠ .ok other := by
      rw [hdocument]
      exact nofun
    simp only [bind_eq_ok, orFail_eq_ok, fromJsonLines_eq_ok]
    constructor
    · intro h
      obtain ⟨⟨bundles, entries⟩, ⟨hsize, hlines, -⟩, h⟩ := h
      cases bundles with
      | nil => cases h
      | cons found others =>
        cases others with
        | cons other others => cases h
        | nil =>
          obtain rfl := Except.ok.inj h
          obtain ⟨line, rest, hparsed, hrest, hall⟩ := List.forall₂_cons_right_iff.mp hlines
          obtain rfl := List.forall₂_nil_right_iff.mp hrest
          exact .container hnone hsize hall hparsed
    · intro h
      cases h with
      | document hparsed => exact absurd hparsed (hnone bundle)
      | @container line _ hsize honly hparsed =>
        have hcount : [bundle].length ≤ maxBundlesPerSet := by
          show 1 ≤ maxBundlesPerSet
          decide
        refine ⟨⟨[bundle], []⟩, ⟨hsize, ?_, by simp, hcount, rfl⟩, rfl⟩
        rw [honly]
        exact .cons hparsed .nil

/-! ### The policy -/

/-- The options name a file, a repository, a workflow and an origin. -/
structure Asks (options : Options) (bundlePath : Str) (repository : RepositoryIdentity)
    (path : WorkflowPath) (origin : Str) : Prop where
  bundlePath : options.bundlePath = some bundlePath
  repo : options.repo = some (ownerSlashName repository.owner repository.name)
  slash : '/' ∉ repository.owner ∧ '/' ∉ repository.name
  pins : repository.ownerId = none ∧ repository.repositoryId = none
  signerWorkflow : options.signerWorkflow = some path.path
  checkpointOrigin : options.checkpointOrigin = some origin

/-- The policy of the options. -/
def Options.policy (options : Options) (repository : RepositoryIdentity) (path : WorkflowPath) :
    GithubPolicy where
  source := ⟨options.pin repository, options.sourceRef.elim (.glob ['*']) .exact, none⟩
  signer := ⟨repository, path, .any⟩

/-- A policy is made of a repository and a workflow path that can be read. -/
theorem policyOf_eq_ok {options : Options} {repo signerWorkflow : Str} {policy : GithubPolicy} :
    policyOf host options repo signerWorkflow = .ok policy ↔
      ∃ (repository : RepositoryIdentity) (path : WorkflowPath),
        RepositoryIdentity.parse host.debug repo = .ok repository ∧ path.path = signerWorkflow ∧
        policy = options.policy repository path := by
  simp only [policyOf, bind_eq_ok, orFail_eq_ok, workflowPath_new_eq_ok,
    githubPolicyBuilder_build_eq_ok]
  constructor
  · intro h
    obtain ⟨signer, hsigner, source, hsource, path, hpath, -, -, rfl⟩ := h
    -- one text, read twice
    obtain rfl := Except.ok.inj (hsigner.symm.trans hsource)
    exact ⟨signer, path, hsigner, hpath, rfl⟩
  · rintro ⟨repository, path, hparsed, hpath, rfl⟩
    obtain ⟨-, -, -, hpins⟩ := repositoryIdentity_parse_eq_ok.mp hparsed
    exact ⟨repository, hparsed, repository, hparsed, path, hpath, hpins.1, hpins.2, rfl⟩

/-- Pinning sets the two ids and nothing else. -/
theorem pin_fields (options : Options) {repository : RepositoryIdentity}
    (hpins : repository.ownerId = none ∧ repository.repositoryId = none) :
    (options.pin repository).owner = repository.owner ∧
      (options.pin repository).name = repository.name ∧
      (options.pin repository).ownerId = options.ownerId ∧
      (options.pin repository).repositoryId = options.repoId := by
  unfold Options.pin
  cases options.ownerId <;> cases options.repoId <;>
    simp [RepositoryIdentity.withOwnerId, RepositoryIdentity.withRepositoryId, hpins]

/-- The claims are what the options ask for: of the repository, with the ids and the ref that are
    given, and signed by a workflow of that path in the repository, at any revision. -/
structure AreWanted (options : Options) (repository : RepositoryIdentity) (path : WorkflowPath)
    (claims : FulcioClaims) (owner name ref : Str) (signer : SignerUriParts) : Prop where
  issuer : claims.issuer = some expectedIssuer
  source : ∃ uri ∈ claims.sourceRepositoryUri, IsGithubRepoUri uri owner name
  sourceRepository : SameRepository owner name repository
  ownerId : ∀ id ∈ options.ownerId, claims.sourceRepositoryOwnerId = some (decimal id.toNat)
  repoId : ∀ id ∈ options.repoId, claims.sourceRepositoryId = some (decimal id.toNat)
  sourceRef : claims.sourceRepositoryRef = some ref
  givenRef : ∀ given ∈ options.sourceRef, ref = given
  signerUri : claims.sanUri = some signer.render ∧ signer.WellFormed
  signerRepository : SameRepository signer.owner signer.name repository
  signerPath : signer.workflowPath = path.path

/-- Without a ref every ref will do. -/
theorem satisfiesRef_elim {options : Options} {ref : Str} :
    SatisfiesRef ref (options.sourceRef.elim (.glob ['*']) .exact) ↔
      ∀ given ∈ options.sourceRef, ref = given := by
  cases options.sourceRef with
  | none =>
    refine ⟨fun _ => nofun, fun _ => ?_⟩
    exact satisfiesRef_glob.mpr (Glob.matches_wildcard_iff.mpr
      ⟨ref, [], (List.append_nil ref).symm, rfl⟩)
  | some given => simp [SatisfiesRef]

/-- The policy made of the options asks for what the options say. -/
theorem satisfies_iff {options : Options} {repository : RepositoryIdentity} {path : WorkflowPath}
    (hpins : repository.ownerId = none ∧ repository.repositoryId = none) {claims : FulcioClaims}
    {owner name ref : Str} {signer : SignerUriParts} :
    Satisfies (options.policy repository path) claims owner name ref signer ↔
      AreWanted options repository path claims owner name ref signer := by
  obtain ⟨howner, hname, hownerId, hrepoId⟩ := pin_fields options hpins
  have hsame {o n : Str} : SameRepository o n (options.pin repository) ↔
      SameRepository o n repository := by
    rw [SameRepository, SameRepository, howner, hname]
  constructor
  · intro h
    obtain ⟨uri, huri, hsigner⟩ := h.signerUri
    obtain ⟨hparts, rfl⟩ := isSignerUri_iff.mp hsigner
    exact
      { issuer := h.issuer
        source := h.sourceUri
        sourceRepository := hsame.mp h.sourceRepository
        ownerId := hownerId ▸ h.sourceOwnerId
        repoId := hrepoId ▸ h.sourceRepositoryId
        sourceRef := h.sourceRef
        givenRef := satisfiesRef_elim.mp h.sourceRefPolicy
        signerUri := ⟨huri, hparts⟩
        signerRepository := h.signerRepository
        signerPath := h.signerPath }
  · intro h
    exact
      { issuer := h.issuer
        sourceUri := h.source
        sourceRepository := hsame.mpr h.sourceRepository
        sourceOwnerId := hownerId.symm ▸ h.ownerId
        sourceRepositoryId := hrepoId.symm ▸ h.repoId
        sourceRef := h.sourceRef
        sourceRefPolicy := satisfiesRef_elim.mpr h.givenRef
        sourceCommit := fun commit hcommit => nomatch hcommit
        signerUri := ⟨signer.render, h.signerUri.1, isSignerUri_iff.mpr ⟨h.signerUri.2, rfl⟩⟩
        signerRepository := h.signerRepository
        signerPath := h.signerPath
        signerRevision := trivial }

/-! ### The run -/

/-- The verifier of the options; the origin is of the first log of the embedded trust root. -/
structure Configured (host : Host) (options : Options) (repository : RepositoryIdentity)
    (path : WorkflowPath) (origin : Str) (verifier : Verifier host.externals) : Prop where
  trustRoot :
    TrustStore.embeddedPublicGood host.externals host.embedded = .ok verifier.trustStore
  policy : verifier.githubPolicy = options.policy repository path
  origin : IsCheckpointOrigin origin ∧ ∃ log, verifier.trustStore.tlogs.head? = some log ∧
    verifier.checkpointOriginPolicy.IsSingle host.externals log origin

/-- A verifier for the options accepts what they ask for, and reports that. -/
theorem verifyDigest_eq_ok {options : Options} {repository : RepositoryIdentity}
    {path : WorkflowPath} {verifier : Verifier host.externals}
    (hpolicy : verifier.githubPolicy = options.policy repository path)
    (hpins : repository.ownerId = none ∧ repository.repositoryId = none) {subject : Subject}
    {bundle : Bundle} {report : VerificationReport} :
    verifier.verifyDigest subject bundle = .ok report ↔
      ∃ statement matched tlogEntry leaf claims,
        Accepted verifier subject bundle statement matched tlogEntry leaf claims ∧
        ∃ owner name ref signer,
          AreWanted options repository path claims owner name ref signer ∧
          report =
            .of verifier subject statement matched tlogEntry (.of owner name ref signer) := by
  simp only [Verifier.verifyDigest_eq_ok, hpolicy, satisfies_iff hpins]

/-- **When the example client prints a report.**  It does so exactly when the arguments are options
    for one subject, a file that holds one bundle, a repository, a workflow and an origin, and the
    bundle passes every step of the verifier of these with claims that are what the options ask
    for; the report is of that subject, bundle and certificate. -/
theorem verify_spec (host : Host) (args : List Str) (out : Str) :
    run host args = .ok out ↔
      ∃ options subject bundlePath bytes bundle repository path origin verifier,
        reader.run args .empty = .ok options ∧
        Names host options.artifact options.digest subject ∧
        Asks options bundlePath repository path origin ∧
        host.read bundlePath = some bytes ∧ Holds host.externals bytes bundle ∧
        Configured host options repository path origin verifier ∧
        ∃ statement matched tlogEntry leaf claims,
          Accepted verifier subject bundle statement matched tlogEntry leaf claims ∧
          ∃ owner name ref signer,
            AreWanted options repository path claims owner name ref signer ∧
            out = reportText
              (.of verifier subject statement matched tlogEntry (.of owner name ref signer)) := by
  simp only [run, bind_eq_ok, okOr_eq_ok, orFail_eq_ok, readFile_eq_ok, subjectOf_eq_ok,
    loadBundle_eq_ok, policyOf_eq_ok, singleOriginPolicy_eq_ok, clientVerifier_eq_ok, pure_eq_ok,
    Except.ok.injEq]
  constructor
  · intro h
    obtain ⟨options, hrun, subject, hnames, bundlePath, hbundlePath, repo, hrepo, _, hworkflow,
      origin, horigin, bytes, hread, bundle, hholds, _, ⟨repository, path, hparsed, rfl, rfl⟩, _,
      htrust, log, hlog, origins, ⟨hvalid, hsingle⟩, verifier, ⟨rfl, hpolicy, rfl⟩, report, hok,
      rfl⟩ := h
    obtain ⟨rfl, howner, hname, hpins⟩ := repositoryIdentity_parse_eq_ok.mp hparsed
    obtain ⟨statement, matched, tlogEntry, leaf, claims, haccepted, owner, name, ref, signer,
      hwanted, rfl⟩ := (verifyDigest_eq_ok hpolicy hpins).mp hok
    exact ⟨options, subject, bundlePath, bytes, bundle, repository, path, origin, verifier, hrun,
      hnames, ⟨hbundlePath, hrepo, ⟨howner, hname⟩, hpins, hworkflow, horigin⟩, hread, hholds,
      ⟨htrust, hpolicy, hvalid, log, hlog, hsingle⟩, statement, matched, tlogEntry, leaf, claims,
      haccepted, owner, name, ref, signer, hwanted, rfl⟩
  · intro h
    obtain ⟨options, subject, bundlePath, bytes, bundle, repository, path, origin, verifier, hrun,
      hnames, hasks, hread, hholds, ⟨htrust, hpolicy, hvalid, log, hlog, hsingle⟩, statement,
      matched, tlogEntry, leaf, claims, haccepted, owner, name, ref, signer, hwanted, hout⟩ := h
    have hparsed : RepositoryIdentity.parse host.debug
        (ownerSlashName repository.owner repository.name) = .ok repository :=
      repositoryIdentity_parse_eq_ok.mpr ⟨rfl, hasks.slash.1, hasks.slash.2, hasks.pins⟩
    have hok := (verifyDigest_eq_ok hpolicy hasks.pins).mpr
      ⟨statement, matched, tlogEntry, leaf, claims, haccepted, owner, name, ref, signer, hwanted,
        rfl⟩
    exact ⟨options, hrun, subject, hnames, bundlePath, hasks.bundlePath,
      ownerSlashName repository.owner repository.name, hasks.repo, path.path, hasks.signerWorkflow,
      origin, hasks.checkpointOrigin, bytes, hread, bundle, hholds,
      options.policy repository path, ⟨repository, path, hparsed, rfl, rfl⟩, verifier.trustStore,
      htrust, log, hlog, verifier.checkpointOriginPolicy, ⟨hvalid, hsingle⟩, verifier,
      ⟨rfl, hpolicy, rfl⟩, _, hok, hout.symm⟩

end Example

end AttestationVerify
