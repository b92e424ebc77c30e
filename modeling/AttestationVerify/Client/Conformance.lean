import AttestationVerify.Client.Host
import AttestationVerify.Relaxation
import AttestationVerify.Wire.JsonPointer

namespace AttestationVerify

open Wire Wire.CommandLine Wire.Builder Wire.Json

/-!
# The conformance client

`tools/conformance/src/main.rs`: the `verify-bundle` command of the Sigstore conformance protocol,
from its arguments to the verdict.
-/

namespace Conformance

/-- The origin of the public-good log's checkpoints. -/
def publicGoodCheckpointOrigin : Str := "rekor.sigstore.dev - 1193050959916656506".toList

/-! ### Arguments -/

/-- The options that take a value. -/
inductive Flag
  | bundle
  | certificateIdentity
  | certificateOidcIssuer
  | key
  | trustedRoot
  deriving DecidableEq

/-- The options, all of which take a value. -/
def Flag.all : List Flag :=
  [.bundle, .certificateIdentity, .certificateOidcIssuer, .key, .trustedRoot]

/-- How an option is written. -/
def Flag.text : Flag → Str
  | .bundle => "--bundle".toList
  | .certificateIdentity => "--certificate-identity".toList
  | .certificateOidcIssuer => "--certificate-oidc-issuer".toList
  | .key => "--key".toList
  | .trustedRoot => "--trusted-root".toList

/-- No option is forgotten. -/
theorem Flag.mem_all (flag : Flag) : flag ∈ Flag.all := by cases flag <;> decide

/-- No two options are written alike. -/
theorem Flag.text_injective : Function.Injective Flag.text := by
  have hall : ∀ f ∈ Flag.all, ∀ g ∈ Flag.all, f.text = g.text → f = g := by decide +kernel
  exact fun f g => hall f f.mem_all g g.mem_all

/-- The variables the loop of `run_verify` fills. -/
structure Options where
  staging : Bool
  bundlePath : Option Str
  certificateIdentity : Option Str
  certificateIssuer : Option Str
  keyPath : Option Str
  trustedRootPath : Option Str
  artifactOrDigest : Option Str
  deriving DecidableEq

/-- No option given yet. -/
def Options.empty : Options := ⟨false, none, none, none, none, none, none⟩

/-- The value given last stays. -/
def Options.set (options : Options) (value : Str) : Flag → Options
  | .bundle => { options with bundlePath := some value }
  | .certificateIdentity => { options with certificateIdentity := some value }
  | .certificateOidcIssuer => { options with certificateIssuer := some value }
  | .key => { options with keyPath := some value }
  | .trustedRoot => { options with trustedRootPath := some value }

/-- The one switch. -/
def stagingText : Str := "--staging".toList

/-- The error on an option that is not known. -/
def unknownOption (host : Host) (value : Str) : ClientError :=
  .message ("unsupported or unknown conformance option ".toList ++ host.debug value)

/-- The error on a second operand. -/
def extraOperand (host : Host) (value : Str) : ClientError :=
  .message ("unexpected extra positional argument ".toList ++ host.debug value)

/-- An argument that is none of the options with a value. -/
def takeWord (host : Host) (argument : Str) (options : Options) : Except ClientError Options :=
  if argument = stagingText then .ok { options with staging := true }
  else if ['-'] <+: argument then .error (unknownOption host argument)
  else if options.artifactOrDigest = none then
    .ok { options with artifactOrDigest := some argument }
  else .error (extraOperand host argument)

/-- How the argument loop takes an option and what it does with the rest. -/
def reader (host : Host) : Reader Str Flag Options ClientError where
  option := optionOf Flag.all Flag.text
  text := Flag.text
  option_eq_some := optionOf_eq_some Flag.mem_all Flag.text_injective
  value flag value options := .ok (options.set value flag)
  missing flag := missingValue flag.text
  word := takeWord host

/-! ### The certificate identity -/

/-- The parts of a certificate identity that the client uses. -/
structure GithubIdentity where
  repository : Str
  workflowPath : Str
  workflowRef : Str
  deriving DecidableEq

/-- A workflow path has something after the directory; `len()` counts bytes. -/
def workflowPathPart (part : Option Str) : Option Str :=
  (part.filter fun value => workflowPathPrefix <+: value).filter fun value =>
    (utf8 workflowPathPrefix).length < (utf8 value).length

/-- `parse_github_identity`: the prefix, the revision, then owner, name and path. -/
def parseGithubIdentity (host : Host) (identity : Str) : Except ClientError GithubIdentity := do
  let rest ← okOr (stripPrefix githubUriPrefix identity) (.message
    ("unsupported certificate identity ".toList ++ host.debug identity ++
      ": expected a GitHub workflow URI".toList))
  let (repositoryAndPath, workflowRef) ← okOr (splitOnce '@' rest)
    (.message "certificate identity is missing the workflow @revision separator".toList)
  ensure (workflowRef ≠ [])
    (.message "certificate identity has an empty workflow revision".toList)
  let components := splitN '/' 3 repositoryAndPath
  let owner ← okOr (nonEmptyPart components[0]?)
    (.message "certificate identity is missing the GitHub repository owner".toList)
  let name ← okOr (nonEmptyPart components[1]?)
    (.message "certificate identity is missing the GitHub repository name".toList)
  let workflowPath ← okOr (workflowPathPart components[2]?)
    (.message "certificate identity is missing a .github/workflows/ path".toList)
  pure ⟨ownerSlashName owner name, workflowPath, workflowRef⟩

/-- The policy `run_verify` builds for an identity: any source ref, the identity's workflow ref. -/
def identityPolicy (host : Host) (certificateIdentity : Str) : Except ClientError GithubPolicy := do
  let identity ← parseGithubIdentity host certificateIdentity
  let repository ← orFail (RepositoryIdentity.parse host.debug identity.repository)
  let path ← orFail (WorkflowPath.new identity.workflowPath)
  orFail ((((⟨none, none⟩ : GithubPolicyBuilder).setSource
    ⟨repository, .glob ['*'], none⟩).setSigner ⟨repository, path, .ref identity.workflowRef⟩).build)

/-! ### Trust root and bundle -/

/-- `public_good_origin_policy`: the public-good origin for the first log without an Ed25519 key. -/
def publicGoodOriginPolicy (host : Host) (trustStore : TrustStore) :
    Except ClientError CheckpointOriginPolicy := do
  let log ← okOr
    (trustStore.tlogs.find? fun log => (findSub "ED25519".toList log.publicKey.keyDetails).isNone)
    (.message "trusted root has no supported Rekor v1 log key".toList)
  orFail (singleOriginPolicy host.externals log publicGoodCheckpointOrigin)

/-- The refusal of a bundle with a managed key. -/
def managedKey : ClientError := .message ("unsupported: this bundle uses managed-key ".toList ++
  "verification, which this crate does not implement".toList)

/-- The refusal of a bundle from Rekor v2. -/
def rekorV2 : ClientError := .message ("unsupported: this bundle uses Rekor v2/TSA ".toList ++
  "verification, but this crate implements Rekor v1 only".toList)

/-- The refusal of a `hashedrekord` entry. -/
def hashedRekord : ClientError :=
  .message ("unsupported: this bundle uses a hashedrekord entry, but this crate models ".toList ++
    "DSSE entries only".toList)

/-- The refusal of another media type. -/
def otherMediaType (host : Host) (mediaType : Str) : ClientError :=
  .message ("unsupported: bundle media type ".toList ++ host.debug mediaType ++
    "; this crate accepts ".toList ++ host.debug bundleMediaType ++ " only".toList)

/-- A text that is no JSON is left to the crate's own parser. -/
def rejectUnsupportedBundleShape (host : Host) (bytes : Bytes) : Except ClientError Unit :=
  match (host.externals.readJson bytes).collect with
  | none => .ok ()
  | some value => do
    let publicKey := value.pointer ["verificationMaterial", "publicKey"]
    ensure (publicKey.any (fun key => !key.isNull) = false) managedKey
    let tlogEntry := value.pointer ["verificationMaterial", "tlogEntries", "0"]
    let kind := (tlogEntry.bind (·.pointer ["kindVersion", "kind"])).bind Value.asStr
    let version := (tlogEntry.bind (·.pointer ["kindVersion", "version"])).bind Value.asStr
    let hasIntegratedTime := (tlogEntry.bind (·.get "integratedTime")).isSome
    ensure (¬ (version = some "0.0.2".toList ∧ hasIntegratedTime = false)) rekorV2
    ensure (kind ≠ some "hashedrekord".toList) hashedRekord
    match (value.get "mediaType").bind Value.asStr with
    | some mediaType => ensure (mediaType = bundleMediaType) (otherMediaType host mediaType)
    | none => pure ()

/-! ### The command -/

/-- `u8::is_ascii_hexdigit`. -/
def isAsciiHexdigit (byte : UInt8) : Bool :=
  (48 ≤ byte && byte ≤ 57) || (65 ≤ byte && byte ≤ 70) || (97 ≤ byte && byte ≤ 102)

/-- What an operand that is a digest starts with. -/
def sha256Prefix : Str := "sha256:".toList

/-- What is verified: a digest given as such, or the artifact in a file. -/
def verifyOperand (host : Host) (verifier : Verifier host.externals) (bundle : Bundle)
    (artifactOrDigest : Str) : Except ClientError VerificationReport :=
  match stripPrefix sha256Prefix artifactOrDigest with
  | some digest =>
    if (utf8 digest).length = 64 ∧ (utf8 digest).all isAsciiHexdigit then do
      let subject ← orFail (Subject.fromDigestHex digest)
      orFail (verifier.verifyDigest subject bundle)
    else do
      let bytes ← host.readFile artifactOrDigest
      orFail (verifier.verifyBytes bytes bundle)
  | none => do
    let bytes ← host.readFile artifactOrDigest
    orFail (verifier.verifyBytes bytes bundle)

/-- What is printed on success. -/
def verifiedText : Str := "verified\n".toList

/-- On success, what is printed. -/
def runVerify (host : Host) (args : List Str) : Except ClientError Str := do
  let options ← (reader host).run args .empty
  ensure (options.staging = false) (.message
    ("unsupported: --staging selects online Sigstore staging infrastructure, but this ".toList ++
      "verifier is offline".toList))
  ensure (options.keyPath = none) (.message
    ("unsupported: --key requests managed-key/cosign verification, which this crate does ".toList ++
      "not implement".toList))
  ensure (¬ (options.certificateIdentity = none ∨ options.certificateIssuer = none)) (.message
    ("verify-bundle requires --certificate-identity and --certificate-oidc-issuer (or an ".toList ++
      "unsupported --key path)".toList))
  let bundlePath ← okOr options.bundlePath
    (.message "verify-bundle requires --bundle FILE".toList)
  let artifactOrDigest ← okOr options.artifactOrDigest (.message
    ("verify-bundle requires an artifact path or a sha256:<64-hex-character-digest> ".toList ++
      "operand".toList))
  let certificateIdentity ← okOr options.certificateIdentity
    (.message "missing certificate identity".toList)
  let certificateIssuer ← okOr options.certificateIssuer
    (.message "missing certificate OIDC issuer".toList)
  ensure (certificateIssuer = expectedIssuer) (.message
    ("unsupported certificate OIDC issuer ".toList ++ host.debug certificateIssuer ++
      "; this crate only verifies GitHub Actions issuer ".toList ++ host.debug expectedIssuer))
  let policy ← identityPolicy host certificateIdentity
  let trustStore ← match options.trustedRootPath with
    | some path => do
      let bytes ← host.readFile path
      orFail (TrustStore.fromJson host.externals bytes)
    | none => orFail (TrustStore.embeddedPublicGood host.externals host.embedded)
  let checkpointOriginPolicy ← publicGoodOriginPolicy host trustStore
  let bundleBytes ← host.readFile bundlePath
  rejectUnsupportedBundleShape host bundleBytes
  let bundle ← orFail (Bundle.fromJson host.externals bundleBytes)
  let verifier ← orFail (clientVerifier host.externals trustStore policy checkpointOriginPolicy)
  let _report ← verifyOperand host verifier bundle artifactOrDigest
  pure verifiedText

/-- The client's `run`: one subcommand verifies, the other is refused. -/
def run (host : Host) : List Str → Except ClientError Str
  | [] => .error (.message "missing conformance subcommand".toList)
  | subcommand :: args =>
    if subcommand = "sign-bundle".toList then .error (.message
      ("unsupported: this client is verification-only; run sigstore-conformance with ".toList ++
        "--skip-signing".toList))
    else if subcommand = "verify-bundle".toList then runVerify host args
    else .error (.message ("unsupported conformance subcommand ".toList ++ host.debug subcommand ++
      "; expected sign-bundle or verify-bundle".toList))

end Conformance

end AttestationVerify
