import AttestationVerify.Client.Identity
import AttestationVerify.Client.Options
import AttestationVerify.Client.Shape

namespace AttestationVerify

open Wire Wire.CommandLine

/-!
# The verdict of the conformance client

* `isDigest_iff` — the two checks of a digest operand leave `from_digest_hex` nothing to refuse;
* `Conformance.Names`, `Conformance.verifyOperand_eq_ok` — the subject an operand stands for;
* `Conformance.Configured`, `Conformance.Confirmed` — the verifier of the options, and what it
  establishes when it accepts;
* `Conformance.run_spec` — when the client says `verified`.
-/

/-! ### Digests -/

/-- The digits are ASCII characters, and their bytes are the digits' bytes. -/
theorem hexdigit_ascii : ∀ k : Fin 256,
    (Conformance.isAsciiHexdigit (UInt8.ofNat k) = true ↔ (Hex.value (Char.ofNat k)).isSome) ∧
      ((Hex.value (Char.ofNat k)).isSome →
        String.utf8EncodeChar (Char.ofNat k) = [UInt8.ofNat k]) := by decide +kernel

/-- A byte the client takes for a hex digit is one as a character. -/
theorem utf8EncodeChar_of_isAsciiHexdigit {b : UInt8} (h : Conformance.isAsciiHexdigit b = true) :
    ∃ d, String.utf8EncodeChar d = [b] ∧ (Hex.value d).isSome := by
  obtain ⟨hiff, henc⟩ := hexdigit_ascii ⟨b.toNat, b.toNat_lt⟩
  rw [UInt8.ofNat_toNat] at hiff henc
  exact ⟨Char.ofNat b.toNat, henc (hiff.mp h), hiff.mp h⟩

/-- A hex digit is one byte, which the client takes for one. -/
theorem utf8EncodeChar_of_value {c : Char} (h : (Hex.value c).isSome) :
    ∃ b, String.utf8EncodeChar c = [b] ∧ Conformance.isAsciiHexdigit b = true := by
  obtain ⟨n, hn⟩ := Option.isSome_iff_exists.mp h
  obtain ⟨hlt, hlower⟩ := Hex.value_eq_some.mp hn
  have hdigit : ∀ m : Fin 16, (Hex.digit m).toNat < 256 := by decide +kernel
  have hlow : (Hex.digit n).toNat < 256 := hdigit ⟨n, hlt⟩
  -- in lower case it is a digit, so it is no further up than that
  have hascii : c.toNat < 256 := by
    rw [← hlower] at hlow
    unfold Char.toLower at hlow
    split at hlow
    · rename_i hupper
      have hle := UInt32.le_iff_toNat_le.mp hupper.2
      exact Nat.lt_of_le_of_lt hle (by decide)
    · exact hlow
  obtain ⟨hiff, henc⟩ := hexdigit_ascii ⟨c.toNat, hascii⟩
  rw [Char.ofNat_toNat] at hiff henc
  exact ⟨_, henc h, hiff.mpr h⟩

/-- The bytes of a text are hex digits when its characters are, one a character. -/
theorem all_isAsciiHexdigit_iff {s : Str} :
    ((utf8 s).all Conformance.isAsciiHexdigit = true ↔ ∀ c ∈ s, (Hex.value c).isSome) ∧
      ((∀ c ∈ s, (Hex.value c).isSome) → (utf8 s).length = s.length) := by
  induction s with
  | nil => simp [utf8]
  | cons c s ih =>
    obtain ⟨hall, hlength⟩ := ih
    have hcons : utf8 (c :: s) = String.utf8EncodeChar c ++ utf8 s := rfl
    rw [hcons, List.all_append, Bool.and_eq_true, hall, List.forall_mem_cons]
    refine ⟨and_congr_left fun _ => ⟨fun h => ?_, fun h => ?_⟩, fun h => ?_⟩
    · obtain ⟨b, rest, henc, -⟩ := exists_utf8EncodeChar c
      have hb : Conformance.isAsciiHexdigit b = true :=
        List.all_eq_true.mp h b (by rw [henc]; exact List.mem_cons_self)
      obtain ⟨d, hd, hdigit⟩ := utf8EncodeChar_of_isAsciiHexdigit hb
      -- the byte of a digit is in no other character's encoding
      have hmem : b ∈ String.utf8EncodeChar c := by
        rw [henc]
        exact List.mem_cons_self
      rwa [mem_utf8EncodeChar hd hmem]
    · obtain ⟨b, henc, hb⟩ := utf8EncodeChar_of_value h
      rw [henc, List.all_cons, hb]
      rfl
    · obtain ⟨b, henc, -⟩ := utf8EncodeChar_of_value h.1
      rw [henc, List.singleton_append, List.length_cons, List.length_cons, hlength h.2]

/-- The client's test for a digest is the library's. -/
theorem isDigest_iff {digest : Str} :
    ((utf8 digest).length = 64 ∧ (utf8 digest).all Conformance.isAsciiHexdigit = true) ↔
      ∃ subject, Subject.fromDigestHex digest = .ok subject := by
  obtain ⟨hall, hlength⟩ := all_isAsciiHexdigit_iff (s := digest)
  rw [hall]
  constructor
  · rintro ⟨hsize, hdigits⟩
    rw [hlength hdigits] at hsize
    obtain ⟨b, hb, htwice⟩ := Hex.exists_decode hdigits (by rw [hsize])
    refine ⟨⟨⟨b, by omega⟩⟩, ?_⟩
    have hto : Hex.decodeTo 32 digest = some ⟨b, by omega⟩ := by
      rw [Hex.decodeTo, hb]
      exact toOctets_eq_some.mpr rfl
    rw [Subject.fromDigestHex, hto]
    rfl
  · rintro ⟨subject, hsubject⟩
    have hlower : digest.map Char.toLower = Hex.encode subject.digest.bytes := by
      simp only [Subject.fromDigestHex, map_eq_bind, bind_eq_ok, okOr_eq_ok,
        Hex.decodeTo_eq_some, Except.ok.injEq] at hsubject
      obtain ⟨_, hlower, rfl⟩ := hsubject
      exact hlower
    have hdigits : ∀ c ∈ digest, (Hex.value c).isSome := by
      intro c hc
      have hmem : c.toLower ∈ Hex.encode subject.digest.bytes := by
        rw [← hlower]
        exact List.mem_map_of_mem hc
      simp only [Hex.encode, List.mem_flatMap, List.mem_cons, List.not_mem_nil, or_false] at hmem
      obtain ⟨x, -, hx⟩ := hmem
      have hx256 := x.toNat_lt
      rcases hx with hx | hx
      · exact Option.isSome_iff_exists.mpr ⟨_, Hex.value_eq_some.mpr ⟨by omega, hx⟩⟩
      · exact Option.isSome_iff_exists.mpr ⟨_, Hex.value_eq_some.mpr ⟨by omega, hx⟩⟩
    refine ⟨?_, hdigits⟩
    have hsize := congrArg List.length hlower
    rw [List.length_map, Hex.length_encode, subject.digest.length_eq] at hsize
    rw [hlength hdigits, hsize]

/-! ### The operand -/

namespace Conformance

variable {host : Host}

/-- The subject an operand stands for: the digest it spells, or else that of the file it names. -/
inductive Names (host : Host) (artifactOrDigest : Str) (subject : Subject) : Prop
  | digest {digest : Str} (spelled : artifactOrDigest = sha256Prefix ++ digest)
      (parsed : Subject.fromDigestHex digest = .ok subject)
  | file {bytes : Bytes}
      (noDigest : ∀ digest, artifactOrDigest = sha256Prefix ++ digest →
        ∀ other, Subject.fromDigestHex digest ≠ .ok other)
      (read : host.read artifactOrDigest = some bytes)
      (hashed : subject = Subject.sha256Of host.externals bytes)

/-- An operand is verified when it names a subject that the verifier accepts. -/
theorem verifyOperand_eq_ok {verifier : Verifier host.externals} {bundle : Bundle}
    {artifactOrDigest : Str} {report : VerificationReport} :
    verifyOperand host verifier bundle artifactOrDigest = .ok report ↔
      ∃ subject, Names host artifactOrDigest subject ∧
        verifier.verifyDigest subject bundle = .ok report := by
  -- an operand that spells no digest names a file
  have hfile (hnone : ∀ digest, artifactOrDigest = sha256Prefix ++ digest →
      ∀ other, Subject.fromDigestHex digest ≠ .ok other) :
      (host.readFile artifactOrDigest >>= fun bytes => orFail (verifier.verifyBytes bytes bundle)) =
          .ok report ↔
        ∃ subject, Names host artifactOrDigest subject ∧
          verifier.verifyDigest subject bundle = .ok report := by
    simp only [bind_eq_ok, readFile_eq_ok, orFail_eq_ok, Verifier.verifyBytes]
    constructor
    · rintro ⟨bytes, hread, hok⟩
      exact ⟨_, .file hnone hread rfl, hok⟩
    · rintro ⟨subject, hnames, hok⟩
      cases hnames with
      | digest hspelled hparsed => exact absurd hparsed (hnone _ hspelled _)
      | file _ hread hhashed => exact ⟨_, hread, hhashed ▸ hok⟩
  unfold verifyOperand
  cases hprefix : stripPrefix sha256Prefix artifactOrDigest with
  | none =>
    refine hfile fun digest hspelled => ?_
    rw [stripPrefix_eq_some.mpr hspelled] at hprefix
    cases hprefix
  | some digest =>
    obtain rfl := stripPrefix_eq_some.mp hprefix
    dsimp only
    split
    · rename_i hdigest
      obtain ⟨subject, hsubject⟩ := isDigest_iff.mp hdigest
      simp only [bind_eq_ok, orFail_eq_ok]
      constructor
      · rintro ⟨other, hother, hok⟩
        exact ⟨other, .digest rfl hother, hok⟩
      · rintro ⟨other, hnames, hok⟩
        cases hnames with
        | digest hspelled hparsed =>
          obtain rfl := List.append_cancel_left hspelled
          exact ⟨other, hparsed, hok⟩
        | file hnone => exact absurd hsubject (hnone digest rfl subject)
    · rename_i hdigest
      refine hfile fun other hspelled subject hsubject => ?_
      obtain rfl := List.append_cancel_left hspelled
      exact hdigest (isDigest_iff.mpr ⟨subject, hsubject⟩)

/-! ### The verdict -/

/-- The trust root of the options: that of a file, or else the embedded one. -/
inductive TrustRoot (host : Host) : Option Str → TrustStore → Prop
  | file {path : Str} {bytes : Bytes} {trustStore : TrustStore}
      (read : host.read path = some bytes)
      (parsed : TrustStore.fromJson host.externals bytes = .ok trustStore) :
      TrustRoot host (some path) trustStore
  | embedded {trustStore : TrustStore}
      (parsed : TrustStore.embeddedPublicGood host.externals host.embedded = .ok trustStore) :
      TrustRoot host none trustStore

/-- The options name a bundle, an operand, the identity of a workflow and the one issuer, and none
    of what the client does not support. -/
structure Options.Asks (options : Options) (bundlePath artifactOrDigest : Str)
    (parts : SignerUriParts) : Prop where
  staging : options.staging = false
  keyPath : options.keyPath = none
  bundlePath : options.bundlePath = some bundlePath
  artifactOrDigest : options.artifactOrDigest = some artifactOrDigest
  certificateIdentity : options.certificateIdentity = some parts.render
  certificateIssuer : options.certificateIssuer = some expectedIssuer

/-- The verifier of a trust store and an identity; the one origin is the public-good log's, for the
    first log whose key is not an Ed25519 key. -/
structure Configured (host : Host) (trustStore : TrustStore) (parts : SignerUriParts)
    (verifier : Verifier host.externals) : Prop where
  trustStore_eq : verifier.trustStore = trustStore
  policy : ∃ h : parts.Named, verifier.githubPolicy = parts.policy h
  origin : ∃ log,
    trustStore.tlogs.find? (fun log => (findSub "ED25519".toList log.publicKey.keyDetails).isNone) =
      some log ∧
    verifier.checkpointOriginPolicy.IsSingle host.externals log publicGoodCheckpointOrigin

/-- The bundle in a file, which names no public key beside its certificate. -/
def BundleAt (host : Host) (path : Str) (bundle : Bundle) : Prop :=
  ∃ bytes, host.read path = some bytes ∧ Bundle.fromJson host.externals bytes = .ok bundle ∧
    ¬ HasPublicKey host.externals bytes

/-- The public-good origin can be one. -/
theorem isCheckpointOrigin_publicGood : IsCheckpointOrigin publicGoodCheckpointOrigin := by
  unfold IsCheckpointOrigin publicGoodCheckpointOrigin
  decide +kernel

/-- The policy is made for the first log whose key is not an Ed25519 key. -/
theorem publicGoodOriginPolicy_eq_ok {trustStore : TrustStore} {policy : CheckpointOriginPolicy} :
    publicGoodOriginPolicy host trustStore = .ok policy ↔ ∃ log,
      trustStore.tlogs.find?
        (fun log => (findSub "ED25519".toList log.publicKey.keyDetails).isNone) = some log ∧
      policy.IsSingle host.externals log publicGoodCheckpointOrigin := by
  simp only [publicGoodOriginPolicy, bind_eq_ok, okOr_eq_ok, orFail_eq_ok, singleOriginPolicy_eq_ok,
    isCheckpointOrigin_publicGood, true_and]

/-- The builder refuses no identity and no trust store with such a log, and leaves no choice. -/
theorem existsUnique_configured_iff {trustStore : TrustStore} {parts : SignerUriParts} :
    (∃! verifier, Configured host trustStore parts verifier) ↔
      parts.Named ∧ ∃ log ∈ trustStore.tlogs,
        findSub "ED25519".toList log.publicKey.keyDetails = none := by
  constructor
  · intro h
    obtain ⟨verifier, ⟨-, ⟨h, -⟩, log, hlog, -⟩, -⟩ := h
    have hkind := List.find?_some hlog
    exact ⟨h, log, List.mem_of_find?_eq_some hlog, Option.isNone_iff_eq_none.mp hkind⟩
  · rintro ⟨h, log, hmem, hkind⟩
    obtain ⟨first, hfirst⟩ : ∃ first, trustStore.tlogs.find?
        (fun log => (findSub "ED25519".toList log.publicKey.keyDetails).isNone) = some first :=
      Option.isSome_iff_exists.mp
        (List.find?_isSome.mpr ⟨log, hmem, Option.isNone_iff_eq_none.mpr hkind⟩)
    obtain ⟨policy, hpolicy⟩ := exists_singleOriginPolicy (X := host.externals) first
      isCheckpointOrigin_publicGood
    obtain ⟨verifier, hverifier⟩ : ∃ verifier : Verifier host.externals,
        verifier.Is trustStore (parts.policy h) policy :=
      exists_clientVerifier ⟨rfl, rfl⟩ hpolicy (List.mem_of_find?_eq_some hfirst)
    have hsingle := hverifier.checkpointOriginPolicy ▸ hpolicy
    refine ⟨verifier, ⟨hverifier.trustStore, ⟨h, hverifier.githubPolicy⟩, first, hfirst, hsingle⟩,
      ?_⟩
    rintro other ⟨htrust, ⟨_, hgithub⟩, log', hlog', hother⟩
    obtain rfl := Option.some.inj (hfirst.symm.trans hlog')
    exact Verifier.Is.unique ⟨htrust, hgithub, hother.unique hpolicy⟩ hverifier

/-- A verifier for an identity accepts the bundles of the certificates of its workflow. -/
theorem verifyDigest_configured {verifier : Verifier host.externals} {parts : SignerUriParts}
    {h : parts.Named} (hpolicy : verifier.githubPolicy = parts.policy h) {subject : Subject}
    {bundle : Bundle} :
    (∃ report, verifier.verifyDigest subject bundle = .ok report) ↔
      ∃ statement matched tlogEntry leaf claims,
        Accepted verifier subject bundle statement matched tlogEntry leaf claims ∧
        claims.NameWorkflow parts := by
  simp only [Verifier.verifyDigest_eq_ok, hpolicy, ← satisfies_policy_iff h]
  constructor
  · intro h
    obtain ⟨_, statement, matched, tlogEntry, leaf, claims, haccepted, owner, name, ref, signer,
      hsatisfies, -⟩ := h
    exact ⟨statement, matched, tlogEntry, leaf, claims, haccepted, owner, name, ref, signer,
      hsatisfies⟩
  · intro h
    obtain ⟨statement, matched, tlogEntry, leaf, claims, haccepted, owner, name, ref, signer,
      hsatisfies⟩ := h
    exact ⟨_, statement, matched, tlogEntry, leaf, claims, haccepted, owner, name, ref, signer,
      hsatisfies, rfl⟩

/-- A bundle and the subject of an operand pass every step of the verifier for a trust store and an
    identity, with a certificate of the identity's workflow. -/
def Confirmed (host : Host) (trustStore : TrustStore) (bundlePath artifactOrDigest : Str)
    (parts : SignerUriParts) : Prop :=
  ∃ verifier bundle subject, Configured host trustStore parts verifier ∧
    BundleAt host bundlePath bundle ∧ Names host artifactOrDigest subject ∧
    ∃ statement matched tlogEntry leaf claims,
      Accepted verifier subject bundle statement matched tlogEntry leaf claims ∧
      claims.NameWorkflow parts

/-- The steps of `run_verify` after the trust root is read. -/
def verifyWith (host : Host) (bundlePath artifactOrDigest : Str) (policy : GithubPolicy)
    (trustStore : TrustStore) : Except ClientError Str := do
  let checkpointOriginPolicy ← publicGoodOriginPolicy host trustStore
  let bundleBytes ← host.readFile bundlePath
  rejectUnsupportedBundleShape host bundleBytes
  let bundle ← orFail (Bundle.fromJson host.externals bundleBytes)
  let verifier ← orFail (clientVerifier host.externals trustStore policy checkpointOriginPolicy)
  let _report ← verifyOperand host verifier bundle artifactOrDigest
  pure verifiedText

/-- With a trust root, the run succeeds when it confirms the file and the operand. -/
theorem verifyWith_eq_ok {bundlePath artifactOrDigest : Str} {parts : SignerUriParts}
    (h : parts.Named) {trustStore : TrustStore} {out : Str} :
    verifyWith host bundlePath artifactOrDigest (parts.policy h) trustStore = .ok out ↔
      out = verifiedText ∧ Confirmed host trustStore bundlePath artifactOrDigest parts := by
  simp only [verifyWith, bind_eq_ok, orFail_eq_ok, readFile_eq_ok, publicGoodOriginPolicy_eq_ok,
    clientVerifier_eq_ok, verifyOperand_eq_ok, pure_eq_ok, Except.ok.injEq]
  constructor
  · intro h
    obtain ⟨origins, ⟨log, hlog, hsingle⟩, bytes, hread, _, hshape, bundle, hbundle, verifier,
      hverifier, report, ⟨subject, hnames, hok⟩, rfl⟩ := h
    have hkey := (rejectUnsupportedBundleShape_of_accepted hbundle hok).mp hshape
    refine ⟨rfl, verifier, bundle, subject,
      ⟨hverifier.trustStore, ⟨h, hverifier.githubPolicy⟩, log, hlog, ?_⟩,
      ⟨bytes, hread, hbundle, hkey⟩, hnames,
      (verifyDigest_configured hverifier.githubPolicy).mp ⟨report, hok⟩⟩
    rw [hverifier.checkpointOriginPolicy]
    exact hsingle
  · intro h
    obtain ⟨rfl, verifier, bundle, subject, ⟨htrust, ⟨_, hpolicy⟩, log, hlog, hsingle⟩,
      ⟨bytes, hread, hbundle, hkey⟩, hnames, haccepted⟩ := h
    obtain ⟨report, hok⟩ := (verifyDigest_configured hpolicy).mpr haccepted
    exact ⟨verifier.checkpointOriginPolicy, ⟨log, hlog, hsingle⟩, bytes, hread, (),
      (rejectUnsupportedBundleShape_of_accepted hbundle hok).mpr hkey, bundle, hbundle, verifier,
      ⟨htrust, hpolicy, rfl⟩, report, ⟨subject, hnames, hok⟩, rfl⟩

/-- A command line is verified when it asks for what can be confirmed. -/
theorem runVerify_eq_ok {line : List Str} {out : Str} :
    runVerify host line = .ok out ↔ out = verifiedText ∧
      ∃ options, (reader host).run line .empty = .ok options ∧
        ∃ bundlePath artifactOrDigest parts trustStore,
          options.Asks bundlePath artifactOrDigest parts ∧
          TrustRoot host options.trustedRootPath trustStore ∧
          Confirmed host trustStore bundlePath artifactOrDigest parts := by
  simp only [runVerify, bind_eq_ok, ensure_eq_ok, okOr_eq_ok, identityPolicy_eq_ok]
  constructor
  · intro h
    obtain ⟨options, hrun, _, hstaging, _, hkey, _, -, bundlePath, hbundlePath, artifactOrDigest,
      hoperand, _, hidentity, _, hissuer, _, rfl, _, ⟨parts, h, rfl, rfl⟩, hrest⟩ := h
    obtain ⟨trustStore, hroot, hrest⟩ : ∃ trustStore,
        TrustRoot host options.trustedRootPath trustStore ∧
          verifyWith host bundlePath artifactOrDigest (parts.policy h) trustStore = .ok out := by
      cases hpath : options.trustedRootPath with
      | none =>
        rw [hpath] at hrest
        obtain ⟨trustStore, hparsed, hrest⟩ := bind_eq_ok.mp hrest
        exact ⟨trustStore, .embedded (orFail_eq_ok.mp hparsed), hrest⟩
      | some path =>
        rw [hpath] at hrest
        obtain ⟨bytes, hread, hrest⟩ := bind_eq_ok.mp hrest
        obtain ⟨trustStore, hparsed, hrest⟩ := bind_eq_ok.mp hrest
        exact ⟨trustStore, .file (readFile_eq_ok.mp hread) (orFail_eq_ok.mp hparsed), hrest⟩
    obtain ⟨rfl, hconfirmed⟩ := (verifyWith_eq_ok h).mp hrest
    exact ⟨rfl, options, hrun, bundlePath, artifactOrDigest, parts, trustStore,
      ⟨hstaging, hkey, hbundlePath, hoperand, hidentity, hissuer⟩, hroot, hconfirmed⟩
  · intro h
    obtain ⟨rfl, options, hrun, bundlePath, artifactOrDigest, parts, trustStore, hasks, hroot,
      hconfirmed⟩ := h
    -- the identity is one the client takes, as there is a policy of it
    obtain ⟨_, _, _, ⟨-, ⟨h, -⟩, -⟩, -⟩ := id hconfirmed
    have hrest := (verifyWith_eq_ok h).mpr ⟨rfl, hconfirmed⟩
    refine ⟨options, hrun, (), hasks.staging, (), hasks.keyPath, (), ?_, bundlePath,
      hasks.bundlePath, artifactOrDigest, hasks.artifactOrDigest, parts.render,
      hasks.certificateIdentity, expectedIssuer, hasks.certificateIssuer, (), rfl, _,
      ⟨parts, h, rfl, rfl⟩, ?_⟩
    · rw [hasks.certificateIdentity, hasks.certificateIssuer]
      simp
    · cases hpath : options.trustedRootPath with
      | none =>
        rw [hpath] at hroot
        cases hroot with
        | embedded hparsed =>
          exact bind_eq_ok.mpr ⟨trustStore, orFail_eq_ok.mpr hparsed, hrest⟩
      | some path =>
        rw [hpath] at hroot
        cases hroot with
        | @file _ bytes _ hread hparsed =>
          exact bind_eq_ok.mpr ⟨bytes, readFile_eq_ok.mpr hread,
            bind_eq_ok.mpr ⟨trustStore, orFail_eq_ok.mpr hparsed, hrest⟩⟩

/-- The subcommand hands on the rest of the line. -/
theorem run_verifyBundle (line : List Str) :
    run host ("verify-bundle".toList :: line) = runVerify host line := by
  rw [run, if_neg (by decide), if_pos rfl]

/-- Only that subcommand succeeds. -/
theorem verifyBundle_of_run {args : List Str} {out : Str} (h : run host args = .ok out) :
    ∃ line, args = "verify-bundle".toList :: line := by
  cases args with
  | nil => cases h
  | cons subcommand line =>
    rw [run] at h
    split at h
    · cases h
    · split at h
      · rename_i hsubcommand
        exact ⟨line, by rw [hsubcommand]⟩
      · cases h

/-- **When the client says `verified`.**  It does so exactly for the command `verify-bundle` with a
    command line that spells options for a bundle, an operand, an identity and the one issuer, when
    the bundle of that file and the subject the operand stands for pass every step of the verifier
    for the trust root and that identity, with a certificate of the identity's workflow.  There is
    one such verifier, unless the trust root has no log for it or the identity names no workflow. -/
theorem run_spec (host : Host) :
    (∀ args out, run host args = .ok out ↔ out = verifiedText ∧
      ∃ (items : List Argument) (options : Options),
        args = "verify-bundle".toList :: items.flatMap (reader host).spell ∧
        (∀ i ∈ items, Known i) ∧ (items.filterMap operand).length ≤ 1 ∧ options.Given items ∧
        ∃ bundlePath artifactOrDigest parts trustStore,
          options.Asks bundlePath artifactOrDigest parts ∧
          TrustRoot host options.trustedRootPath trustStore ∧
          Confirmed host trustStore bundlePath artifactOrDigest parts) ∧
    ∀ trustStore parts, (∃! verifier, Configured host trustStore parts verifier) ↔
      parts.Named ∧ ∃ log ∈ trustStore.tlogs,
        findSub "ED25519".toList log.publicKey.keyDetails = none := by
  refine ⟨fun args out => ?_, fun trustStore parts => existsUnique_configured_iff⟩
  constructor
  · intro h
    obtain ⟨line, rfl⟩ := verifyBundle_of_run h
    rw [run_verifyBundle, runVerify_eq_ok] at h
    obtain ⟨rfl, options, hline, hrest⟩ := h
    obtain ⟨items, rfl, hknown, hone, hgiven⟩ := reader_run_eq_ok.mp hline
    exact ⟨rfl, items, options, rfl, hknown, hone, hgiven, hrest⟩
  · intro h
    obtain ⟨rfl, items, options, rfl, hknown, hone, hgiven, hrest⟩ := h
    rw [run_verifyBundle, runVerify_eq_ok]
    exact ⟨rfl, options, reader_run_eq_ok.mpr ⟨items, rfl, hknown, hone, hgiven⟩, hrest⟩

end Conformance

end AttestationVerify
