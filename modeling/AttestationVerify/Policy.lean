import AttestationVerify.Trust

namespace AttestationVerify

open Wire

/-!
# Policies

`policy.rs`: what a caller requires of a certificate's identity and of a checkpoint's origin.  A
type whose constructor validates its input carries the validated fact as a field.
-/

/-- The error of every policy constructor. -/
def policyError (reason : String) : Error := .policy (.invalidConfiguration reason)

/-! ### Checkpoint origins -/

/-- Not empty, and on one line. -/
def IsCheckpointOrigin (origin : Str) : Prop := origin ≠ [] ∧ '\r' ∉ origin ∧ '\n' ∉ origin

/-- One log key, by the SHA-256 of its SPKI, and the origins allowed for it. -/
structure CheckpointOriginBinding where
  keyId : Octets 32
  origins : List Str
  origins_ne : origins ≠ []
  origins_valid : ∀ origin ∈ origins, IsCheckpointOrigin origin

/-- The origins allowed for each log key. -/
structure CheckpointOriginPolicy where
  bindings : List CheckpointOriginBinding
  bindings_ne : bindings ≠ []

/-- The key id of a log, from the key itself. -/
def checkpointLogKeyId (X : Externals) (log : TransparencyLog) : Octets 32 :=
  X.sha256 log.publicKey.rawBytes

/-- An origin is not empty and is one line. -/
def validateCheckpointOrigin (origin : Str) : Except Error {s : Str // IsCheckpointOrigin s} :=
  if hempty : origin = [] then .error (policyError "checkpoint origin must not be empty")
  else if hline : '\r' ∈ origin ∨ '\n' ∈ origin then
    .error (policyError "checkpoint origin must not contain CR or LF")
  else .ok ⟨origin, hempty, not_or.mp hline⟩

/-- `CheckpointOriginBinding::new`: all origins are validated, and one is required. -/
def CheckpointOriginBinding.new (X : Externals) (log : TransparencyLog) (origins : List Str) :
    Except Error CheckpointOriginBinding := do
  let validated ← origins.mapM validateCheckpointOrigin
  if hempty : validated = [] then
    .error (policyError "checkpoint origin binding must contain at least one origin")
  else
    pure ⟨checkpointLogKeyId X log, validated.map Subtype.val,
      fun h => hempty (List.map_eq_nil_iff.mp h), by
      simp only [List.mem_map]
      rintro _ ⟨origin, -, rfl⟩
      exact origin.property⟩

/-- `CheckpointOriginPolicy::new`: one binding at least. -/
def CheckpointOriginPolicy.new (bindings : List CheckpointOriginBinding) :
    Except Error CheckpointOriginPolicy :=
  if hempty : bindings = [] then
    .error (policyError "checkpoint origin policy must not be empty")
  else .ok ⟨bindings, hempty⟩

/-- `allows`: some binding of the key has the origin, byte for byte. -/
def CheckpointOriginPolicy.allows (policy : CheckpointOriginPolicy) (keyId : Octets 32)
    (origin : Str) : Bool :=
  (policy.bindings.filter (·.keyId = keyId)).any fun binding =>
    binding.origins.any (· = origin)

/-- `allows` says what it searches for. -/
theorem CheckpointOriginPolicy.allows_iff {policy : CheckpointOriginPolicy} {keyId : Octets 32}
    {origin : Str} : policy.allows keyId origin = true ↔
      ∃ binding ∈ policy.bindings, binding.keyId = keyId ∧ origin ∈ binding.origins := by
  simp [CheckpointOriginPolicy.allows, List.any_eq_true]

/-- The bindings collected so far. -/
structure CheckpointOriginPolicyBuilder where
  bindings : List CheckpointOriginBinding

namespace CheckpointOriginPolicyBuilder

/-- A binding is added at the end. -/
def binding (builder : CheckpointOriginPolicyBuilder) (binding : CheckpointOriginBinding) :
    CheckpointOriginPolicyBuilder := ⟨builder.bindings ++ [binding]⟩

/-- The binding with one more origin, where it does not have it. -/
def allowIn (binding : CheckpointOriginBinding) (origin : {s : Str // IsCheckpointOrigin s}) :
    CheckpointOriginBinding :=
  if origin.val ∈ binding.origins then binding
  else
    { binding with
      origins := binding.origins ++ [origin.val]
      origins_ne := List.append_ne_nil_of_right_ne_nil _ (List.cons_ne_nil _ _)
      origins_valid := List.forall_mem_append.mpr
        ⟨binding.origins_valid, List.forall_mem_singleton.mpr origin.property⟩ }

/-- The first binding of the key takes the origin, or a new one at the end does. -/
def allowFirst (keyId : Octets 32) (origin : {s : Str // IsCheckpointOrigin s}) :
    List CheckpointOriginBinding → List CheckpointOriginBinding
  | [] =>
    [⟨keyId, [origin.val], List.cons_ne_nil _ _, List.forall_mem_singleton.mpr origin.property⟩]
  | binding :: bindings =>
    if binding.keyId = keyId then allowIn binding origin :: bindings
    else binding :: allowFirst keyId origin bindings

/-- `allow_origin`: the origin goes into the first binding of the key. -/
def allowOrigin (X : Externals) (builder : CheckpointOriginPolicyBuilder) (log : TransparencyLog)
    (origin : Str) : Except Error CheckpointOriginPolicyBuilder := do
  let keyId := checkpointLogKeyId X log
  let origin ← validateCheckpointOrigin origin
  pure ⟨allowFirst keyId origin builder.bindings⟩

/-- `allow_origins`: one after the other, and the first bad one fails. -/
def allowOrigins (X : Externals) (builder : CheckpointOriginPolicyBuilder) (log : TransparencyLog)
    (origins : List Str) : Except Error CheckpointOriginPolicyBuilder :=
  origins.foldlM (fun builder origin => builder.allowOrigin X log origin) builder

/-- `build`: the policy of what was collected. -/
def build (builder : CheckpointOriginPolicyBuilder) : Except Error CheckpointOriginPolicy :=
  CheckpointOriginPolicy.new builder.bindings

end CheckpointOriginPolicyBuilder

/-! ### Identity -/

/-- `owner/name`, optionally pinned to numeric ids. -/
structure RepositoryIdentity where
  owner : Str
  name : Str
  ownerId : Option UInt64
  repositoryId : Option UInt64
  owner_ne : owner ≠ []
  name_ne : name ≠ []

/-- `RepositoryIdentity::new`: neither part is empty, and no id is pinned. -/
def RepositoryIdentity.new (owner name : Str) : Except Error RepositoryIdentity :=
  if howner : owner = [] then .error (policyError "repository owner must not be empty")
  else if hname : name = [] then .error (policyError "repository name must not be empty")
  else .ok ⟨owner, name, none, none, howner, hname⟩

/-- `owner/name` taken apart; `debug` is how `{:?}` shows a text. -/
def RepositoryIdentity.parse (debug : Str → Str) (repository : Str) :
    Except Error RepositoryIdentity := do
  let (owner, name) ← okOr (splitOnce '/' repository) (policyError (String.ofList
    ("expected \"owner/name\", got ".toList ++ debug repository)))
  ensure ('/' ∉ name) (policyError (String.ofList
    ("expected exactly one '/' in \"owner/name\", got ".toList ++ debug repository)))
  RepositoryIdentity.new owner name

/-- The repository with its owner's id pinned. -/
def RepositoryIdentity.withOwnerId (repository : RepositoryIdentity) (ownerId : UInt64) :
    RepositoryIdentity := { repository with ownerId := some ownerId }

/-- The repository with its own id pinned. -/
def RepositoryIdentity.withRepositoryId (repository : RepositoryIdentity)
    (repositoryId : UInt64) : RepositoryIdentity :=
  { repository with repositoryId := some repositoryId }

/-- Which refs are accepted: one, or those of a pattern. -/
inductive RefPolicy
  | exact (ref : Str)
  | glob (pattern : Str)
  deriving DecidableEq

/-- A workflow file path. -/
structure WorkflowPath where
  path : Str
  path_ne : path ≠ []

/-- `WorkflowPath::new`: any path but the empty one. -/
def WorkflowPath.new (path : Str) : Except Error WorkflowPath :=
  if hpath : path = [] then .error (policyError "workflow path must not be empty")
  else .ok ⟨path, hpath⟩

/-- A git commit SHA-1. -/
structure CommitSha where
  sha : Octets 20
  deriving DecidableEq

/-- The commit in lower-case hex. -/
def CommitSha.toHex (commit : CommitSha) : Str := Hex.encode commit.sha.bytes

/-- Which revision of the workflow is accepted. -/
inductive WorkflowRevisionPolicy
  | any
  | ref (ref : Str)
  | sha (sha : CommitSha)
  deriving DecidableEq

/-- What is asked of the source repository. -/
structure SourcePolicy where
  repository : RepositoryIdentity
  gitRef : RefPolicy
  commit : Option CommitSha

/-- What is asked of the signing workflow. -/
structure SignerPolicy where
  repository : RepositoryIdentity
  path : WorkflowPath
  revision : WorkflowRevisionPolicy

/-- The identity policy: a source and a signer. -/
structure GithubPolicy where
  source : SourcePolicy
  signer : SignerPolicy

/-- No certificate claim could enforce a numeric id of the signer's repository. -/
def rejectSignerIdPins (signer : SignerPolicy) : Except Error Unit :=
  ensure (signer.repository.ownerId = none ∧ signer.repository.repositoryId = none) (policyError
    ("signer repository numeric id pins cannot be enforced: a Fulcio certificate carries " ++
      "no authenticated signer-repository owner or repository id claim, only the signer's " ++
      "owner/name in the SAN URI. Remove with_owner_id/with_repository_id from the signer " ++
      "repository (source-side numeric id pins are enforced)"))

/-- The two parts, as far as they are set. -/
structure GithubPolicyBuilder where
  source : Option SourcePolicy
  signer : Option SignerPolicy

/-- `source`: the last one set stays. -/
def GithubPolicyBuilder.setSource (builder : GithubPolicyBuilder) (source : SourcePolicy) :
    GithubPolicyBuilder := { builder with source := some source }

/-- `signer`: the last one set stays. -/
def GithubPolicyBuilder.setSigner (builder : GithubPolicyBuilder) (signer : SignerPolicy) :
    GithubPolicyBuilder := { builder with signer := some signer }

/-- `build`: both parts are required, and the signer may pin no id. -/
def GithubPolicyBuilder.build (builder : GithubPolicyBuilder) : Except Error GithubPolicy := do
  let source ← okOr builder.source (policyError "source policy is required")
  let signer ← okOr builder.signer (policyError "signer policy is required")
  rejectSignerIdPins signer
  pure ⟨source, signer⟩

end AttestationVerify
