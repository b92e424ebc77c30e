import AttestationVerify.OriginPolicy
import AttestationVerify.Wire.CommandLine

namespace AttestationVerify

open Wire Wire.CommandLine Wire.Builder

/-!
# Command-line clients

What the two programs of the repository have in common: the host they run on, the errors they
report, and the configuration of one log and one origin they build a verifier from.

* `Host` — the files, the embedded trust root and the libraries;
* `repositoryIdentity_parse_eq_ok` and its like — the constructors a policy is put together with;
* `singleOriginPolicy_eq_ok`, `CheckpointOriginPolicy.IsSingle.unique` — one log and one origin make
  one policy;
* `clientVerifier_eq_ok`, `exists_clientVerifier` — the verifier of three parts; with a log of the
  trust root and a signer without pins the builder refuses none.
-/

/-- What a client finds on its host; the files stay as they are while it runs. -/
structure Host where
  externals : Externals
  /-- `std::fs::read`. -/
  read : Str → Option Bytes
  /-- The bytes of `assets/trusted_root_public_good.json`. -/
  embedded : Bytes
  /-- The characters of the Unicode tables that `{:?}` does not show as they are. -/
  unprintable : Char → Bool

/-- `Box<dyn Error>`: a text, an `io::Error`, the error of an integer's `parse`, or the crate's. -/
inductive ClientError
  | message (text : Str)
  | file
  | integer
  | attestation (e : Error)
  deriving DecidableEq

/-- `{:?}` of one character of a text. -/
def debugChar (unprintable : Char → Bool) (c : Char) : Str :=
  if c.toNat = 0 then ['\\', '0']
  else if c = '\t' then ['\\', 't']
  else if c = '\r' then ['\\', 'r']
  else if c = '\n' then ['\\', 'n']
  else if c = '\\' then ['\\', '\\']
  else if c = '"' then ['\\', '"']
  else if unprintable c then '\\' :: 'u' :: '\x7b' :: (Nat.toDigits 16 c.toNat ++ ['\x7d'])
  else [c]

/-- `{:?}` of a text. -/
def Host.debug (host : Host) (s : Str) : Str :=
  '"' :: (s.flatMap (debugChar host.unprintable) ++ ['"'])

/-- `?` on a result of the crate. -/
def orFail {α : Type} (x : Except Error α) : Except ClientError α :=
  x.mapError .attestation

/-- A file that cannot be read is an error of the client. -/
def Host.readFile (host : Host) (path : Str) : Except ClientError Bytes :=
  okOr (host.read path) .file

/-- `next_value` where there is none. -/
def missingValue (flag : Str) : ClientError := .message (flag ++ " requires a value".toList)

/-- `CheckpointOriginPolicy::builder().allow_origin(log, origin)?.build()?`. -/
def singleOriginPolicy (X : Externals) (log : TransparencyLog) (origin : Str) :
    Except Error CheckpointOriginPolicy := do
  let builder ← CheckpointOriginPolicyBuilder.allowOrigin X ⟨[]⟩ log origin
  builder.build

/-- `Verifier::builder()` with all three parts set. -/
def clientVerifier (X : Externals) (trustStore : TrustStore) (githubPolicy : GithubPolicy)
    (checkpointOriginPolicy : CheckpointOriginPolicy) : Except Error (Verifier X) :=
  (((⟨none, none, none⟩ : VerifierBuilder).setTrustStore trustStore).setGithubPolicy
    githubPolicy).setCheckpointOriginPolicy checkpointOriginPolicy |>.build X

/-! ### What the parts come to -/

section Parts

variable {X : Externals}

/-- A library error stays one. -/
theorem orFail_eq_ok {α : Type} {x : Except Error α} {a : α} : orFail x = .ok a ↔ x = .ok a := by
  cases x <;> simp [orFail, Except.mapError]

/-- A file is read when it is there. -/
theorem readFile_eq_ok {host : Host} {path : Str} {bytes : Bytes} :
    host.readFile path = .ok bytes ↔ host.read path = some bytes := okOr_eq_ok

/-- A repository is its owner, one slash and its name, with no id pinned. -/
theorem repositoryIdentity_parse_eq_ok {debug : Str → Str} {s : Str}
    {repository : RepositoryIdentity} :
    RepositoryIdentity.parse debug s = .ok repository ↔
      s = ownerSlashName repository.owner repository.name ∧ '/' ∉ repository.owner ∧
        '/' ∉ repository.name ∧ repository.ownerId = none ∧ repository.repositoryId = none := by
  have hnew {owner name : Str} : RepositoryIdentity.new owner name = .ok repository ↔
      owner = repository.owner ∧ name = repository.name ∧ repository.ownerId = none ∧
        repository.repositoryId = none := by
    obtain ⟨owner', name', ownerId, repositoryId, howner, hname⟩ := repository
    unfold RepositoryIdentity.new
    constructor
    · intro h
      split at h
      · cases h
      · split at h
        · cases h
        · cases h
          exact ⟨rfl, rfl, rfl, rfl⟩
    · rintro ⟨rfl, rfl, rfl, rfl⟩
      rw [dif_neg howner, dif_neg hname]
  simp only [RepositoryIdentity.parse, bind_eq_ok, okOr_eq_ok, ensure_eq_ok, splitOnce_eq_some,
    Prod.exists, hnew]
  constructor
  · intro h
    obtain ⟨_, _, ⟨rfl, howner⟩, _, hname, rfl, rfl, hids⟩ := h
    exact ⟨rfl, howner, hname, hids⟩
  · rintro ⟨rfl, howner, hname, hids⟩
    exact ⟨_, _, ⟨rfl, howner⟩, (), hname, rfl, rfl, hids⟩

/-- Every path that is not empty will do. -/
theorem workflowPath_new_eq_ok {s : Str} {path : WorkflowPath} :
    WorkflowPath.new s = .ok path ↔ path.path = s := by
  obtain ⟨p, hp⟩ := path
  unfold WorkflowPath.new
  constructor
  · intro h
    split at h
    · cases h
    · cases h
      rfl
  · rintro rfl
    rw [dif_neg hp]

/-- The builder of a policy asks that the signer has no pins. -/
theorem githubPolicyBuilder_build_eq_ok {source : SourcePolicy} {signer : SignerPolicy}
    {policy : GithubPolicy} :
    ((((⟨none, none⟩ : GithubPolicyBuilder).setSource source).setSigner signer).build) =
        .ok policy ↔
      signer.repository.ownerId = none ∧ signer.repository.repositoryId = none ∧
        policy = ⟨source, signer⟩ := by
  simp only [GithubPolicyBuilder.build, GithubPolicyBuilder.setSource,
    GithubPolicyBuilder.setSigner, rejectSignerIdPins, bind_eq_ok, okOr_eq_ok, ensure_eq_ok,
    pure_eq_ok, Except.ok.injEq, Option.some.injEq]
  constructor
  · intro h
    obtain ⟨_, rfl, _, rfl, _, ⟨howner, hrepository⟩, rfl⟩ := h
    exact ⟨howner, hrepository, rfl⟩
  · rintro ⟨howner, hrepository, rfl⟩
    exact ⟨_, rfl, _, rfl, (), ⟨howner, hrepository⟩, rfl⟩

/-- The policy allows one origin, and for one key. -/
structure CheckpointOriginPolicy.IsSingle (X : Externals) (policy : CheckpointOriginPolicy)
    (log : TransparencyLog) (origin : Str) : Prop where
  bindings : policy.bindings.map (fun binding => (binding.keyId, binding.origins)) =
    [(X.sha256 log.publicKey.rawBytes, [origin])]

/-- One log and one origin make one policy. -/
theorem CheckpointOriginPolicy.IsSingle.unique {policy policy' : CheckpointOriginPolicy}
    {log : TransparencyLog} {origin : Str} (h : policy.IsSingle X log origin)
    (h' : policy'.IsSingle X log origin) : policy = policy' := by
  obtain ⟨⟨keyId, origins, hne, hvalid⟩, hbinding, hpair⟩ := List.map_eq_singleton_iff.mp h.bindings
  obtain ⟨⟨keyId', origins', hne', hvalid'⟩, hbinding', hpair'⟩ :=
    List.map_eq_singleton_iff.mp h'.bindings
  obtain ⟨rfl, rfl⟩ := Prod.mk.inj (hpair.trans hpair'.symm)
  cases policy
  cases policy'
  simp only at hbinding hbinding'
  subst hbinding hbinding'
  rfl

/-- A log and a well-formed origin do make a policy. -/
theorem exists_singleOriginPolicy (log : TransparencyLog) {origin : Str}
    (h : IsCheckpointOrigin origin) : ∃ policy : CheckpointOriginPolicy,
      policy.IsSingle X log origin :=
  ⟨⟨[⟨X.sha256 log.publicKey.rawBytes, [origin], by simp, by simpa using h⟩], by simp⟩, ⟨rfl⟩⟩

/-- The policy is built exactly when the origin can be one. -/
theorem singleOriginPolicy_eq_ok {log : TransparencyLog} {origin : Str}
    {policy : CheckpointOriginPolicy} :
    singleOriginPolicy X log origin = .ok policy ↔
      IsCheckpointOrigin origin ∧ policy.IsSingle X log origin := by
  simp only [singleOriginPolicy, CheckpointOriginPolicyBuilder.allowOrigin, bind_eq_ok, pure_eq_ok,
    Except.ok.injEq, validateCheckpointOrigin_eq_ok, build_eq_ok]
  constructor
  · rintro ⟨_, ⟨valid, rfl, rfl⟩, hbindings⟩
    refine ⟨valid.property, ⟨?_⟩⟩
    rw [hbindings]
    rfl
  · rintro ⟨hvalid, hsingle⟩
    refine ⟨_, ⟨⟨origin, hvalid⟩, rfl, rfl⟩, ?_⟩
    obtain ⟨binding, hbinding, hpair⟩ := List.map_eq_singleton_iff.mp hsingle.bindings
    obtain ⟨hkey, horigins⟩ := Prod.mk.inj hpair
    rw [hbinding]
    obtain ⟨keyId, origins, hne, hall⟩ := binding
    subst hkey horigins
    rfl

/-- A verifier with the three parts. -/
structure Verifier.Is (verifier : Verifier X) (trustStore : TrustStore)
    (githubPolicy : GithubPolicy) (checkpointOriginPolicy : CheckpointOriginPolicy) : Prop where
  trustStore : verifier.trustStore = trustStore
  githubPolicy : verifier.githubPolicy = githubPolicy
  checkpointOriginPolicy : verifier.checkpointOriginPolicy = checkpointOriginPolicy

/-- The verifier that is built is the one of these parts. -/
theorem clientVerifier_eq_ok {trustStore : TrustStore} {githubPolicy : GithubPolicy}
    {checkpointOriginPolicy : CheckpointOriginPolicy} {verifier : Verifier X} :
    clientVerifier X trustStore githubPolicy checkpointOriginPolicy = .ok verifier ↔
      verifier.Is trustStore githubPolicy checkpointOriginPolicy := by
  rw [clientVerifier, verifierBuilder_build_eq_ok]
  constructor
  · rintro ⟨htrust, hgithub, horigins⟩
    exact ⟨(Option.some.inj htrust).symm, (Option.some.inj hgithub).symm,
      (Option.some.inj horigins).symm⟩
  · rintro ⟨rfl, rfl, rfl⟩
    exact ⟨rfl, rfl, rfl⟩

/-- These parts make one verifier. -/
theorem Verifier.Is.unique {trustStore : TrustStore} {githubPolicy : GithubPolicy}
    {checkpointOriginPolicy : CheckpointOriginPolicy} {verifier verifier' : Verifier X}
    (h : verifier.Is trustStore githubPolicy checkpointOriginPolicy)
    (h' : verifier'.Is trustStore githubPolicy checkpointOriginPolicy) : verifier = verifier' := by
  obtain ⟨rfl, rfl, rfl⟩ := h
  obtain ⟨htrust, hgithub, horigins⟩ := h'
  cases verifier
  cases verifier'
  simp only at htrust hgithub horigins
  subst htrust hgithub horigins
  rfl

/-- A log of the trust root and a signer without pins leave the builder nothing to refuse. -/
theorem exists_clientVerifier {trustStore : TrustStore} {githubPolicy : GithubPolicy}
    {checkpointOriginPolicy : CheckpointOriginPolicy} {log : TransparencyLog} {origin : Str}
    (hsigner : githubPolicy.signer.repository.ownerId = none ∧
      githubPolicy.signer.repository.repositoryId = none)
    (hsingle : checkpointOriginPolicy.IsSingle X log origin) (hlog : log ∈ trustStore.tlogs) :
    ∃ verifier : Verifier X, verifier.Is trustStore githubPolicy checkpointOriginPolicy := by
  refine ⟨⟨trustStore, githubPolicy, checkpointOriginPolicy, hsigner, ?_⟩, rfl, rfl, rfl⟩
  intro binding hbinding
  obtain ⟨only, honly, hpair⟩ := List.map_eq_singleton_iff.mp hsingle.bindings
  rw [honly, List.mem_singleton] at hbinding
  rw [hbinding]
  exact ⟨log, hlog, (Prod.mk.inj hpair).1.symm⟩

end Parts

end AttestationVerify
