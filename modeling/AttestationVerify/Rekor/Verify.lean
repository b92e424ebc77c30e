import AttestationVerify.Policy
import AttestationVerify.Rekor.Checkpoint
import AttestationVerify.Rekor.Entry
import AttestationVerify.Rekor.Inclusion
import AttestationVerify.Rekor.Set
import AttestationVerify.Rekor.StoredBody
import AttestationVerify.X509

namespace AttestationVerify

open Wire Wire.Rfc6962

/-!
# Time evidence

`rekor.rs`, last part: the five checks of a bundle's transparency-log entry, in their order.

* `verifyTlogEntry` — the composition;
* `EntryVerified` — what all five checks establish of one entry, one body and one log;
* `verifyTlogEntry_eq_ok` — the composition accepts exactly that;
* `verifyTlogEntry_sound` — under a log that signs only what it holds, accepted evidence is true.
-/

/-- The time that the log promised, and the entry's index. -/
structure VerifiedTimestamp where
  integratedTime : UInt64
  logIndex : UInt64
  deriving DecidableEq

/-- `check_time_window`: the promised time lies in the log key's and the leaf's windows. -/
def checkTimeWindow (integratedTime : UInt64) (logKeyValidFor : ValidityPeriod)
    (leafNotBefore leafNotAfter : ℤ) : Except Error Unit := do
  let outsideLogKey : Error := .timestamp .integratedTimeOutsideLogKeyValidity
  -- a time that is no `i64` is outside every window
  ensure (integratedTime.toNat < 2 ^ 63) outsideLogKey
  let integratedTime : ℤ := integratedTime.toNat
  ensure (withinValidFor integratedTime logKeyValidFor) outsideLogKey
  ensure (leafNotBefore ≤ integratedTime ∧ integratedTime ≤ leafNotAfter)
    (.timestamp .integratedTimeOutsideCertificateValidity)

/-- The match that opens `verify_tlog_entry`. -/
def soleTlogEntry : List TlogEntry → Except Error TlogEntry
  | [] => .error (.transparency .noTlogEntries)
  | [entry] => .ok entry
  | entries => .error (.unsupported (.multipleTlogEntries entries.length))

/-- `verify_tlog_entry`, its steps in the source's order. -/
def verifyTlogEntry (X : Externals) (bundle : Bundle) (trustStore : TrustStore)
    (checkpointOriginPolicy : CheckpointOriginPolicy) : Except Error VerifiedTimestamp := do
  let tlogEntry ← soleTlogEntry bundle.verificationMaterial.tlogEntries
  let leafCertificate := bundle.verificationMaterial.certificate
  -- 1. canonicalized body
  let body ← parseTlogEntryBody X tlogEntry.canonicalizedBody
  checkEntryBinding X tlogEntry body bundle.dsseEnvelope leafCertificate.rawBytes
  -- 2. inclusion promise
  let (log, logKey) ← selectLogKey X trustStore tlogEntry.logIdKeyId
  let selectedKeyId := X.sha256 log.publicKey.rawBytes
  verifySet X tlogEntry selectedKeyId.bytes logKey
  -- 3. inclusion proof
  let inclusionProof ← okOr tlogEntry.inclusionProof (.transparency .inclusionProofMissing)
  verifyInclusionProof X tlogEntry.canonicalizedBody inclusionProof
  -- 4. checkpoint, and only then its origin
  let checkpoint ← verifyCheckpoint X inclusionProof.checkpoint.envelope inclusionProof.treeSize
    inclusionProof.rootHash log logKey
  ensure (checkpointOriginPolicy.allows selectedKeyId checkpoint.origin)
    (.transparency .checkpointOriginMismatch)
  -- 5. time window
  let leafInfo ← LeafCertificateInfo.fromCertificate X leafCertificate
  checkTimeWindow tlogEntry.integratedTime log.publicKey.validFor leafInfo.notBefore
    leafInfo.notAfter
  pure ⟨tlogEntry.integratedTime, tlogEntry.logIndex⟩

/-! ### What the steps accept -/

variable {X : Externals}

/-- There is one entry. -/
theorem soleTlogEntry_eq_ok {entries : List TlogEntry} {entry : TlogEntry} :
    soleTlogEntry entries = .ok entry ↔ entries = [entry] := by
  match entries with
  | [] => simp [soleTlogEntry]
  | [e] => simp [soleTlogEntry]
  | e :: e' :: rest => simp [soleTlogEntry]

/-- The leaf is decoded, with its key and its window. -/
theorem LeafCertificateInfo.fromCertificate_eq_ok {certificate : Certificate}
    {info : LeafCertificateInfo} :
    LeafCertificateInfo.fromCertificate X certificate = .ok info ↔
      ∃ leaf, X.der.certificate certificate.rawBytes = some leaf ∧
        ∃ spkiDer, leaf.tbsCertificate.spkiDer = some spkiDer ∧
          EcdsaVerifyingKey.fromSpkiDer X spkiDer = .ok info.key ∧
          info.notBefore = unixSeconds leaf.tbsCertificate.notBefore ∧
          info.notAfter = unixSeconds leaf.tbsCertificate.notAfter := by
  simp only [LeafCertificateInfo.fromCertificate, bind_eq_ok, okOr_eq_ok, pure_eq_ok,
    Except.ok.injEq]
  constructor
  · intro h
    obtain ⟨leaf, hleaf, spkiDer, hspki, key, hkey, rfl⟩ := h
    exact ⟨leaf, hleaf, spkiDer, hspki, hkey, rfl, rfl⟩
  · intro h
    obtain ⟨leaf, hleaf, spkiDer, hspki, hkey, hbefore, hafter⟩ := h
    exact ⟨leaf, hleaf, spkiDer, hspki, info.key, hkey, by rw [← hbefore, ← hafter]⟩

/-- A certificate's window ends where an `i64` does, so that a time inside it fits one. -/
theorem checkTimeWindow_eq_ok {integratedTime : UInt64} {window : ValidityPeriod}
    {leaf : X509Certificate} {u : Unit} :
    checkTimeWindow integratedTime window (unixSeconds leaf.tbsCertificate.notBefore)
        (unixSeconds leaf.tbsCertificate.notAfter) = .ok u ↔
      withinValidFor integratedTime.toNat window ∧
        WithinCertificate leaf integratedTime.toNat := by
  simp only [checkTimeWindow, bind_eq_ok, ensure_eq_ok, WithinCertificate, exists_and_left,
    exists_const]
  refine ⟨fun ⟨_, hlog, hleaf⟩ => ⟨hlog, hleaf⟩, fun ⟨hlog, hleaf⟩ => ⟨?_, hlog, hleaf⟩⟩
  -- the last second of a certificate is an `i64`
  have hle := hleaf.2
  unfold unixSeconds at hle
  omega

/-! ### What the composition accepts -/

/-- One log, the first of the trust store whose key hashes to `logId`, and its key. -/
structure SelectedLog (X : Externals) (trustStore : TrustStore) (logId : Bytes)
    (log : TransparencyLog) (logKey : EcdsaVerifyingKey) : Prop where
  selected : selectLog X trustStore logId = some log
  key : EcdsaVerifyingKey.fromSpkiDer X log.publicKey.rawBytes = .ok logKey

/-- The entry's inclusion promise is `logKey`'s signature over its body, time and index, under the
    log's own key id. -/
def Promised (X : Externals) (tlogEntry : TlogEntry) (log : TransparencyLog)
    (logKey : EcdsaVerifyingKey) : Prop :=
  ∃ promise, tlogEntry.inclusionPromise = some promise ∧
    logKey.verifyDer X (setSignedBytes tlogEntry.canonicalizedBody tlogEntry.integratedTime
      (X.sha256 log.publicKey.rawBytes).bytes tlogEntry.logIndex)
      promise.signedEntryTimestamp = true

/-- What the checks establish before the certificate is decoded: the body bound to the bundle, and
    promised, included and covered by a checkpoint under one and the same log key. -/
structure EntryAuthenticated (X : Externals) (bundle : Bundle) (trustStore : TrustStore)
    (tlogEntry : TlogEntry) (body : TlogEntryBody) (log : TransparencyLog)
    (logKey : EcdsaVerifyingKey) (proof : InclusionProof) (checkpoint : ParsedCheckpoint) :
    Prop where
  entries : bundle.verificationMaterial.tlogEntries = [tlogEntry]
  parsed : parseTlogEntryBody X tlogEntry.canonicalizedBody = .ok body
  bound : EntryBound X tlogEntry body bundle.dsseEnvelope
    bundle.verificationMaterial.certificate.rawBytes
  selection : SelectedLog X trustStore tlogEntry.logIdKeyId log logKey
  promised : Promised X tlogEntry log logKey
  proof_eq : tlogEntry.inclusionProof = some proof
  included : ∃ hashes rootHash, IncludesBody X tlogEntry.canonicalizedBody proof hashes rootHash
  covered : CheckpointSigned X proof.checkpoint.envelope proof.treeSize proof.rootHash log
    logKey checkpoint

/-- The checkpoint's origin is allowed for the log's key, and the integrated time lies in the
    log's window and in the leaf's. -/
structure EntryVerified (X : Externals) (bundle : Bundle) (trustStore : TrustStore)
    (policy : CheckpointOriginPolicy) (tlogEntry : TlogEntry) (body : TlogEntryBody)
    (log : TransparencyLog) (logKey : EcdsaVerifyingKey) (proof : InclusionProof)
    (checkpoint : ParsedCheckpoint) (leaf : X509Certificate) : Prop
    extends EntryAuthenticated X bundle trustStore tlogEntry body log logKey proof checkpoint where
  origin : ∃ binding ∈ policy.bindings, binding.keyId = X.sha256 log.publicKey.rawBytes ∧
    checkpoint.origin ∈ binding.origins
  decoded : X.der.certificate bundle.verificationMaterial.certificate.rawBytes = some leaf
  leafKey : ∃ spkiDer key, leaf.tbsCertificate.spkiDer = some spkiDer ∧
    EcdsaVerifyingKey.fromSpkiDer X spkiDer = .ok key
  logWindow : withinValidFor tlogEntry.integratedTime.toNat log.publicKey.validFor
  leafWindow : WithinCertificate leaf tlogEntry.integratedTime.toNat

/-- **The composition is exact**: it accepts when one entry, body, log, proof, checkpoint and leaf
    pass every check, and reports that entry's time and index. -/
theorem verifyTlogEntry_eq_ok {bundle : Bundle} {trustStore : TrustStore}
    {policy : CheckpointOriginPolicy} {timestamp : VerifiedTimestamp} :
    verifyTlogEntry X bundle trustStore policy = .ok timestamp ↔
      ∃ tlogEntry body log logKey proof checkpoint leaf,
        EntryVerified X bundle trustStore policy tlogEntry body log logKey proof checkpoint leaf ∧
        timestamp = ⟨tlogEntry.integratedTime, tlogEntry.logIndex⟩ := by
  simp only [verifyTlogEntry, bind_eq_ok, okOr_eq_ok, pure_eq_ok, Except.ok.injEq, Prod.exists,
    soleTlogEntry_eq_ok, checkEntryBinding_eq_ok, selectLogKey_eq_ok, verifySet_eq_ok,
    verifyInclusionProof_eq_ok, verifyCheckpoint_eq_ok, ensure_eq_ok,
    CheckpointOriginPolicy.allows_iff]
  constructor
  · intro h
    obtain ⟨tlogEntry, hentries, body, hbody, _, hbound, log, logKey, ⟨hlog, hkey⟩, _, hset, proof,
      hproof, _, hincluded, checkpoint, hcheckpoint, _, horigin, info, hinfo, _, hwindow, rfl⟩ := h
    -- the times compared are those of the bundle's own leaf
    obtain ⟨leaf, hleaf, spkiDer, hspki, hleafKey, hbefore, hafter⟩ :=
      LeafCertificateInfo.fromCertificate_eq_ok.mp hinfo
    rw [hbefore, hafter, checkTimeWindow_eq_ok] at hwindow
    exact ⟨tlogEntry, body, log, logKey, proof, checkpoint, leaf,
      { entries := hentries
        parsed := hbody
        bound := hbound
        selection := ⟨hlog, hkey⟩
        promised := hset
        proof_eq := hproof
        included := hincluded
        covered := hcheckpoint
        origin := horigin
        decoded := hleaf
        leafKey := ⟨spkiDer, info.key, hspki, hleafKey⟩
        logWindow := hwindow.1
        leafWindow := hwindow.2 }, rfl⟩
  · intro hverified
    obtain ⟨tlogEntry, body, log, logKey, proof, checkpoint, leaf, h, rfl⟩ := hverified
    obtain ⟨spkiDer, key, hspki, hleafKey⟩ := h.leafKey
    exact ⟨tlogEntry, h.entries, body, h.parsed, (), h.bound, log, logKey,
      ⟨h.selection.selected, h.selection.key⟩, (), h.promised, proof, h.proof_eq, (), h.included,
      checkpoint, h.covered, (), h.origin,
      ⟨key, unixSeconds leaf.tbsCertificate.notBefore, unixSeconds leaf.tbsCertificate.notAfter⟩,
      LeafCertificateInfo.fromCertificate_eq_ok.mpr
        ⟨leaf, h.decoded, spkiDer, hspki, hleafKey, rfl, rfl⟩,
      (), checkTimeWindow_eq_ok.mpr ⟨h.logWindow, h.leafWindow⟩, rfl⟩

/-! ### Against what the log holds -/

/-- The entries a log integrated, and the note bodies it published with the leaves they cover. -/
structure LogHistory where
  entries : Set (Bytes × UInt64 × UInt64)
  heads : Set (Str × List Bytes)

/-- The note body of a checkpoint over the tree hash of `leaves`. -/
def IsTreeHead (X : Externals) (noteBody : Str) (leaves : List Bytes) : Prop :=
  ∃ envelope checkpoint, parseCheckpoint envelope = .ok checkpoint ∧
    checkpoint.noteBody = noteBody ∧ checkpoint.treeSize.toNat = leaves.length ∧
    checkpoint.rootHash = (mth X.sha256 leaves).bytes

/-- What such a log signs: promises of its entries, under its own key id, and its tree heads. -/
inductive LogHistory.Signs (X : Externals) (history : LogHistory) (keyId : Octets 32) :
    Bytes → Prop
  | promise {body : Bytes} {time index : UInt64} (h : (body, time, index) ∈ history.entries) :
    Signs X history keyId (setSignedBytes body time keyId.bytes index)
  | head {noteBody : Str} {leaves : List Bytes} (h : (noteBody, leaves) ∈ history.heads)
    (hhead : IsTreeHead X noteBody leaves) : Signs X history keyId (utf8 noteBody)

/-- The two kinds of signed message never coincide: one ends in a brace, one in a line feed. -/
theorem setSignedBytes_ne_noteBody {body keyId : Bytes} {time index : UInt64} {envelope : Str}
    {checkpoint : ParsedCheckpoint} (h : parseCheckpoint envelope = .ok checkpoint) :
    setSignedBytes body time keyId index ≠ utf8 checkpoint.noteBody := by
  intro heq
  obtain ⟨bodyText, hnote, -⟩ := parseNoteBody_of_parseCheckpoint h
  have hlast := congrArg List.getLast? (utf8_injective heq)
  rw [getLast?_setText, hnote, List.getLast?_concat] at hlast
  exact absurd hlast (by decide)

section History

variable {history : LogHistory} {keyId : Octets 32}

/-- A signed inclusion promise is of an entry the log holds. -/
theorem mem_entries_of_signs {body : Bytes} {time index : UInt64}
    (h : history.Signs X keyId (setSignedBytes body time keyId.bytes index)) :
    (body, time, index) ∈ history.entries := by
  generalize hmessage : setSignedBytes body time keyId.bytes index = message at h
  cases h with
  | promise hentry =>
    obtain ⟨rfl, rfl, -, rfl⟩ := setSignedBytes_inj hmessage
    exact hentry
  | head _ hhead =>
    obtain ⟨envelope, checkpoint, hparse, rfl, -⟩ := hhead
    exact absurd hmessage (setSignedBytes_ne_noteBody hparse)

/-- A signed checkpoint covers leaves the log published. -/
theorem exists_leaves_of_signs {envelope : Str} {checkpoint : ParsedCheckpoint}
    (hparse : parseCheckpoint envelope = .ok checkpoint)
    (h : history.Signs X keyId (utf8 checkpoint.noteBody)) :
    ∃ leaves, (checkpoint.noteBody, leaves) ∈ history.heads ∧
      checkpoint.treeSize.toNat = leaves.length ∧
      checkpoint.rootHash = (mth X.sha256 leaves).bytes := by
  generalize hmessage : utf8 checkpoint.noteBody = message at h
  cases h with
  | promise _ => exact absurd hmessage.symm (setSignedBytes_ne_noteBody hparse)
  | @head noteBody leaves hpublished hhead =>
    -- the signed text was also parsed from the published envelope, with the same result
    obtain rfl := utf8_injective hmessage
    obtain ⟨envelope', checkpoint', hparse', hnote, hsize, hroot⟩ := hhead
    obtain ⟨-, hsize', hroot'⟩ := parseCheckpoint_noteBody_inj hparse hparse' hnote.symm
    exact ⟨leaves, hpublished, hsize' ▸ hsize, hroot'.trans hroot⟩

/-- The bundle's one entry is one the log integrated at this time and index, and it is a leaf of a
    tree the log published, or its inclusion proof contains a SHA-256 collision. -/
def LogHistory.Holds (X : Externals) (history : LogHistory) (bundle : Bundle)
    (timestamp : VerifiedTimestamp) : Prop :=
  ∃ tlogEntry proof hashes, bundle.verificationMaterial.tlogEntries = [tlogEntry] ∧
    tlogEntry.inclusionProof = some proof ∧ proof.hashes = hashes.map Octets.bytes ∧
    (tlogEntry.canonicalizedBody, timestamp.integratedTime, timestamp.logIndex) ∈
      history.entries ∧
    ∃ noteBody leaves, (noteBody, leaves) ∈ history.heads ∧
      proof.logIndex.toNat < leaves.length ∧
      (leaves[proof.logIndex.toNat]? = some tlogEntry.canonicalizedBody ∨
        Collision X.sha256
          (inclusionCollision X leaves tlogEntry.canonicalizedBody proof.logIndex.toNat hashes).1
          (inclusionCollision X leaves tlogEntry.canonicalizedBody proof.logIndex.toNat hashes).2)

/-- **Time evidence is sound.**  When the selected key verifies only what a log with this history
    signs, accepted evidence is held by that history.  Promises and checkpoints never stand in for
    one another. -/
theorem verifyTlogEntry_sound {bundle : Bundle} {trustStore : TrustStore}
    {policy : CheckpointOriginPolicy} {timestamp : VerifiedTimestamp}
    (hsigns : ∀ tlogEntry ∈ bundle.verificationMaterial.tlogEntries, ∀ log logKey,
      SelectedLog X trustStore tlogEntry.logIdKeyId log logKey → ∀ message signature,
        logKey.verifyDer X message signature = true →
          history.Signs X (X.sha256 log.publicKey.rawBytes) message)
    (hok : verifyTlogEntry X bundle trustStore policy = .ok timestamp) :
    history.Holds X bundle timestamp ∧
    ∀ (body keyId : Bytes) (time index : UInt64) (envelope : Str) (checkpoint : ParsedCheckpoint),
      parseCheckpoint envelope = .ok checkpoint →
        setSignedBytes body time keyId index ≠ utf8 checkpoint.noteBody := by
  refine ⟨?_, fun _ _ _ _ _ _ hparse => setSignedBytes_ne_noteBody hparse⟩
  obtain ⟨tlogEntry, body, log, logKey, proof, checkpoint, leaf, h, rfl⟩ :=
    verifyTlogEntry_eq_ok.mp hok
  have hkey := hsigns tlogEntry (by simp [h.entries]) log logKey h.selection
  obtain ⟨promise, -, hpromise⟩ := h.promised
  obtain ⟨hashes, rootHash, hincluded⟩ := h.included
  obtain ⟨signature, -, -, hsignature⟩ := h.covered.signed
  have hentry := mem_entries_of_signs (hkey _ _ hpromise)
  obtain ⟨leaves, hpublished, hsize, hroot⟩ :=
    exists_leaves_of_signs h.covered.parsed (hkey _ _ hsignature)
  -- the checkpoint's tree head is the proof's, and so is the root the proof recomputes
  rw [h.covered.treeSize_eq] at hsize
  rw [h.covered.rootHash_eq, hincluded.rootHash_eq] at hroot
  have hrecomputed := hincluded.recomputed
  rw [Octets.ext hroot] at hrecomputed
  obtain ⟨hlt, hleaf⟩ := recomputeRoot_sound hsize.symm hrecomputed
  exact ⟨tlogEntry, proof, hashes, h.entries, h.proof_eq, hincluded.hashes_eq, hentry,
    checkpoint.noteBody, leaves, hpublished, hlt, hleaf⟩

end History

/-! ### An accepted entry

An entry that holds in every check: a log key, a leaf certificate and two signatures made with
them, and the SHA-256 digests they go with.
-/

namespace Sample

open Wire.Json Wire.Serde

/-- The log's key, a P-256 one in DER. -/
def logSpki : Bytes :=
  [48, 89, 48, 19, 6, 7, 42, 134, 72, 206, 61, 2, 1, 6, 8, 42, 134, 72, 206, 61, 3, 1, 7, 3, 66,
  0, 4, 29, 59, 92, 53, 27, 223, 78, 184, 100, 14, 90, 24, 89, 9, 158, 221, 148, 137, 113, 75, 86,
  217, 15, 151, 245, 146, 226, 4, 22, 212, 79, 24, 233, 189, 73, 123, 237, 211, 129, 68, 223, 111,
  238, 230, 178, 102, 73, 147, 229, 78, 97, 203, 29, 196, 80, 116, 16, 20, 148, 161, 111, 250,
  175, 205]

/-- The point of the log's key. -/
def logPoint : Bytes := logSpki.drop 26

/-- The SHA-256 of the key. -/
def logKeyId : Octets 32 :=
  ⟨[150, 113, 120, 10, 175, 75, 97, 155, 170, 78, 92, 205, 179, 235, 106, 165, 19, 58, 99, 194,
  128, 198, 245, 236, 1, 21, 160, 11, 206, 159, 209, 201], rfl⟩

/-- A certificate for a P-256 key, self-issued and valid for ten minutes. -/
def leafDer : Bytes :=
  [48, 129, 230, 48, 129, 142, 2, 1, 1, 48, 10, 6, 8, 42, 134, 72, 206, 61, 4, 3, 2, 48, 0, 48,
  30, 23, 13, 50, 52, 48, 49, 48, 49, 48, 48, 48, 48, 48, 48, 90, 23, 13, 50, 52, 48, 49, 48, 49,
  48, 48, 49, 48, 48, 48, 90, 48, 0, 48, 89, 48, 19, 6, 7, 42, 134, 72, 206, 61, 2, 1, 6, 8, 42,
  134, 72, 206, 61, 3, 1, 7, 3, 66, 0, 4, 244, 101, 195, 176, 61, 249, 161, 54, 209, 210, 64, 81,
  149, 166, 161, 215, 53, 147, 200, 219, 153, 198, 111, 51, 9, 31, 207, 38, 192, 108, 126, 34, 62,
  21, 27, 138, 118, 43, 117, 109, 46, 116, 190, 242, 152, 233, 164, 189, 45, 107, 166, 204, 132,
  140, 79, 200, 220, 31, 211, 62, 135, 226, 104, 126, 48, 10, 6, 8, 42, 134, 72, 206, 61, 4, 3, 2,
  3, 71, 0, 48, 68, 2, 32, 95, 48, 115, 114, 32, 85, 85, 218, 97, 161, 54, 199, 42, 57, 121, 131,
  171, 198, 17, 91, 210, 100, 173, 93, 175, 138, 202, 58, 31, 157, 240, 120, 2, 32, 30, 57, 251,
  64, 87, 199, 146, 86, 169, 207, 229, 245, 57, 222, 102, 228, 112, 161, 243, 21, 174, 196, 83,
  198, 126, 16, 239, 96, 34, 91, 64, 200]

/-- The certificate decoded. -/
def leaf : X509Certificate where
  tbsCertificate :=
    { subject := [48, 0]
      issuer := [48, 0]
      notBefore := 1704067200
      notAfter := 1704067800
      spkiDer := some ((leafDer.drop 57).take 91)
      extensions := none
      der := some ((leafDer.drop 3).take 145) }
  signatureAlgorithm := ecdsaWithSha256
  signature := leafDer.drop 163

/-- The leaf hash of the empty entry. -/
def emptyLeaf : Octets 32 :=
  ⟨[110, 52, 11, 156, 255, 179, 122, 152, 156, 165, 68, 230, 187, 120, 10, 44, 120, 144, 29, 63,
  179, 55, 56, 118, 133, 17, 163, 6, 23, 175, 160, 29], rfl⟩

/-- The leaf hash of the entry's body. -/
def bodyLeaf : Octets 32 :=
  ⟨[1, 1, 55, 101, 54, 111, 34, 118, 124, 93, 184, 241, 129, 248, 124, 127, 166, 240, 230, 134,
  175, 161, 244, 125, 50, 233, 134, 213, 82, 208, 150, 64], rfl⟩

/-- The root above the two. -/
def rootHash : Octets 32 :=
  ⟨[93, 192, 182, 2, 191, 30, 127, 46, 151, 15, 203, 145, 13, 32, 10, 249, 135, 249, 101, 71, 159,
  217, 13, 84, 218, 148, 20, 80, 125, 103, 178, 92], rfl⟩

/-- The log's signature over the entry's promise. -/
def promiseSignature : Bytes :=
  [48, 68, 2, 32, 56, 94, 103, 193, 137, 158, 165, 240, 222, 48, 89, 126, 177, 213, 202, 123, 198,
  80, 132, 207, 54, 14, 182, 33, 97, 121, 48, 43, 148, 122, 116, 18, 2, 32, 52, 228, 220, 12, 234,
  114, 13, 173, 152, 37, 119, 245, 76, 49, 67, 212, 56, 245, 164, 207, 84, 189, 49, 127, 206, 191,
  206, 206, 117, 127, 79, 163]

/-- The log's signature over the checkpoint. -/
def checkpointSignature : Bytes :=
  [48, 68, 2, 32, 119, 179, 167, 255, 210, 105, 17, 107, 253, 219, 201, 2, 31, 121, 241, 41, 121,
  180, 204, 4, 67, 161, 89, 52, 75, 39, 112, 100, 17, 147, 104, 127, 2, 32, 76, 197, 12, 181, 129,
  181, 195, 58, 31, 191, 126, 250, 138, 156, 21, 158, 12, 158, 138, 1, 232, 69, 49, 120, 28, 195,
  85, 135, 213, 145, 212, 68]

/-- The signed envelope. -/
def envelope : DsseEnvelope := ⟨[104, 105], ['t'], ⟨[1], none⟩⟩

/-- The leaf certificate as the log stores it. -/
def verifierPem : Str := pemText leafDer

/-- The document stored for the envelope. -/
def document : Value := storedDocument envelopeHash payloadHash [1] verifierPem

/-- The parsed body. -/
def body : TlogEntryBody := storedBody envelopeHash payloadHash [1] leafDer

/-- The checkpoint's signed text. -/
def noteBody : Str :=
  ['l', 'o', 'g', '.', 't', 'e', 's', 't', ' ', '-', ' ', '1', '\n', '2', '\n'] ++
    Base64.encode rootHash.bytes ++ ['\n']

/-- The checkpoint with one signature line. -/
def checkpointText : Str :=
  noteBody ++ ['\n', '\u2014', ' ', 'l', 'o', 'g', '.', 't', 'e', 's', 't', ' '] ++
    Base64.encode (logKeyId.bytes.take 4 ++ checkpointSignature) ++ ['\n']

/-- The checkpoint parsed. -/
def checkpoint : ParsedCheckpoint where
  origin := ['l', 'o', 'g', '.', 't', 'e', 's', 't', ' ', '-', ' ', '1']
  treeSize := 2
  rootHash := rootHash.bytes
  noteBody := noteBody
  signatures := [⟨['l', 'o', 'g', '.', 't', 'e', 's', 't'], ⟨logKeyId.bytes.take 4, rfl⟩,
    checkpointSignature⟩]

/-- The bytes of the entry's body are a parameter: nothing below looks into them. -/
def promiseMessage (canonicalizedBody : Bytes) : Bytes :=
  setSignedBytes canonicalizedBody 1704067205 logKeyId.bytes 7

/-- Libraries that compute and verify these values. -/
def externals (canonicalizedBody : Bytes) : Externals where
  readJson := (Externals.ofTexts [(canonicalizedBody, ⟨document.toTree, true⟩)]).readJson
  sha256 := ((Externals.ofTexts []).withDigests [(logSpki, logKeyId), ([104, 105], payloadHash),
    (leafPreimage [], emptyLeaf), (leafPreimage canonicalizedBody, bodyLeaf),
    (nodePreimage emptyLeaf bodyLeaf, rootHash),
    (utf8 (envelopeJson envelope), envelopeHash)]).sha256
  p256 :=
    { fromPublicKeyDer := fun spkiDer =>
        if spkiDer = logSpki then some logPoint
        else if some spkiDer = leaf.tbsCertificate.spkiDer then some (spkiDer.drop 26) else none
      verify := fun key message signature => key = logPoint ∧
        ((message = promiseMessage canonicalizedBody ∧ signature = promiseSignature) ∨
          (message = utf8 noteBody ∧ signature = checkpointSignature)) }
  p384 := (Externals.ofTexts []).p384
  der := { (Externals.ofTexts []).der with
    certificate := fun der => if der = leafDer then some leaf else none }

/-- The inclusion proof of the second of two entries. -/
def proof : InclusionProof := ⟨1, rootHash.bytes, 2, [emptyLeaf.bytes], ⟨checkpointText⟩⟩

/-- The bundle's log entry. -/
def tlogEntry (canonicalizedBody : Bytes) : TlogEntry where
  logIndex := 7
  logIdKeyId := logKeyId.bytes
  kind := tlogEntryKind
  version := tlogEntryApiVersion
  integratedTime := 1704067205
  inclusionPromise := some ⟨promiseSignature⟩
  inclusionProof := some proof
  canonicalizedBody := canonicalizedBody

/-- The bundle around it. -/
def bundle (canonicalizedBody : Bytes) : Bundle :=
  ⟨bundleMediaType, ⟨⟨leafDer⟩, [tlogEntry canonicalizedBody], ⟨[]⟩⟩, envelope⟩

/-- The log, valid over the given window. -/
def log (validFor : ValidityPeriod) : TransparencyLog :=
  ⟨[], [], ⟨logSpki, [], validFor⟩, logKeyId.bytes, none⟩

/-- A trust store with these logs and nothing else. -/
def trustStore (tlogs : List TransparencyLog) : TrustStore := ⟨[], tlogs, [], [], [], [], []⟩

/-- The log's key may sign for the checkpoint's origin. -/
def policy : CheckpointOriginPolicy :=
  ⟨[⟨logKeyId, [checkpoint.origin], by simp, by simp [IsCheckpointOrigin, checkpoint]⟩], by simp⟩

variable {b : Bytes}

/-- The log's key has the log's id. -/
theorem sha256_logSpki : (externals b).sha256 logSpki = logKeyId := by
  simp [externals, Externals.withDigests]

/-- The payload has its digest. -/
theorem sha256_payload : (externals b).sha256 [104, 105] = payloadHash := by
  simp [externals, Externals.withDigests, List.lookup_cons, logSpki]

/-- The empty entry has its leaf hash. -/
theorem sha256_emptyLeaf : (externals b).sha256 (leafPreimage []) = emptyLeaf := by
  simp [externals, Externals.withDigests, List.lookup_cons, logSpki, leafPreimage]

/-- Another entry has the body's leaf hash. -/
theorem sha256_bodyLeaf (hb : b ≠ []) : (externals b).sha256 (leafPreimage b) = bodyLeaf := by
  have hne : (b == []) = false := beq_eq_false_iff_ne.mpr hb
  simp [externals, Externals.withDigests, List.lookup_cons, logSpki, leafPreimage, hne]

/-- The two leaves are hashed to the root. -/
theorem sha256_root : (externals b).sha256 (nodePreimage emptyLeaf bodyLeaf) = rootHash := by
  simp [externals, Externals.withDigests, List.lookup_cons, logSpki, leafPreimage, nodePreimage]

/-- The envelope's JSON has its digest. -/
theorem sha256_envelope : (externals b).sha256 (utf8 (envelopeJson envelope)) = envelopeHash := by
  -- the text starts with a brace, and none of the other preimages does
  obtain ⟨rest, hrest⟩ : ∃ rest, utf8 (envelopeJson envelope) = 123 :: rest := by
    unfold envelopeJson
    repeat rw [utf8_append]
    repeat rw [List.append_assoc]
    exact ⟨_, rfl⟩
  simp [externals, Externals.withDigests, List.lookup_cons, logSpki, leafPreimage, nodePreimage,
    hrest]

/-- The checkpoint's text is parsed. -/
theorem parseCheckpoint_text : parseCheckpoint checkpointText = .ok checkpoint := by
  decide +kernel

/-- The body's text is read as the document. -/
theorem readJson_body : (externals b).readJson b = ⟨document.toTree, true⟩ := by
  unfold externals
  exact readJson_ofTexts_head b ⟨document.toTree, true⟩ []

/-- The document is parsed to the body. -/
theorem parseTlogEntryBody_document : parseTlogEntryBody (externals b) b = .ok body :=
  parseTlogEntryBody_of_stored (pemBlock_pemText leafDer) readJson_body

/-- The log's key is parsed. -/
theorem fromSpkiDer_log :
    EcdsaVerifyingKey.fromSpkiDer (externals b) logSpki = .ok (.p256 logPoint) := by
  simp [EcdsaVerifyingKey.fromSpkiDer, externals]

/-- The leaf's key is parsed. -/
theorem fromSpkiDer_leaf : EcdsaVerifyingKey.fromSpkiDer (externals b) ((leafDer.drop 57).take 91) =
    .ok (.p256 ((leafDer.drop 83).take 65)) := by
  have hne : (leafDer.drop 57).take 91 ≠ logSpki := by decide
  simp [EcdsaVerifyingKey.fromSpkiDer, externals, hne, leaf]
  rfl

/-- The hint is the first four bytes of the key's id. -/
theorem keyHint_log (window : ValidityPeriod) :
    checkpointKeyHint (externals b) (log window) = some ⟨logKeyId.bytes.take 4, rfl⟩ := by
  simp only [checkpointKeyHint, log, sha256_logSpki]
  exact toOctets_eq_some.mpr rfl

/-- The proof leads to the root. -/
theorem recomputed (hb : b ≠ []) :
    recomputeRoot (externals b) (rfc6962LeafHash (externals b) b) 1 2 [emptyLeaf] =
      some rootHash := by
  have hleaf : rfc6962LeafHash (externals b) b = bodyLeaf := sha256_bodyLeaf hb
  have hnode : rfc6962NodeHash (externals b) emptyLeaf bodyLeaf = rootHash := sha256_root
  rw [hleaf]
  simp [recomputeRoot, walkUp, hnode]

/-- The promised time lies in the leaf's window. -/
theorem leafWindow : WithinCertificate leaf (1704067205 : UInt64).toNat :=
  ⟨by decide, by decide⟩

/-- The entry passes every check, whatever else the trust store holds. -/
theorem entryVerified (hb : b ≠ []) {tlogs : List TransparencyLog} {window : ValidityPeriod}
    (hselected : selectLog (externals b) (trustStore tlogs) logKeyId.bytes = some (log window))
    (hwindow : withinValidFor 1704067205 window) :
    EntryVerified (externals b) (bundle b) (trustStore tlogs) policy (tlogEntry b) body (log window)
      (.p256 logPoint) proof checkpoint leaf where
  entries := rfl
  parsed := parseTlogEntryBody_document
  bound :=
    { kind := rfl
      version := rfl
      signature := rfl
      certificate := rfl
      payloadHash := sha256_payload.symm
      envelopeHash := sha256_envelope.symm }
  selection := ⟨hselected, fromSpkiDer_log⟩
  promised := ⟨⟨promiseSignature⟩, rfl, by
    rw [show (log window).publicKey.rawBytes = logSpki from rfl, sha256_logSpki]
    simp [EcdsaVerifyingKey.verifyDer, externals, tlogEntry, promiseMessage]⟩
  proof_eq := rfl
  included := ⟨[emptyLeaf], rootHash, rfl, rfl, recomputed hb⟩
  covered := ⟨parseCheckpoint_text, rfl, rfl, ⟨_, List.mem_singleton_self _, keyHint_log window, by
    simp [EcdsaVerifyingKey.verifyDer, externals, checkpoint]⟩⟩
  origin := ⟨_, List.mem_singleton_self _, sha256_logSpki.symm, List.mem_singleton_self _⟩
  decoded := by simp [externals, bundle]
  leafKey := ⟨(leafDer.drop 57).take 91, .p256 _, rfl, fromSpkiDer_leaf⟩
  logWindow := hwindow
  leafWindow := leafWindow

/-- The code accepts the entry. -/
theorem verifyTlogEntry_eq (hb : b ≠ []) {tlogs : List TransparencyLog} {window : ValidityPeriod}
    (hselected : selectLog (externals b) (trustStore tlogs) logKeyId.bytes = some (log window))
    (hwindow : withinValidFor 1704067205 window) :
    verifyTlogEntry (externals b) (bundle b) (trustStore tlogs) policy = .ok ⟨1704067205, 7⟩ :=
  verifyTlogEntry_eq_ok.mpr ⟨_, _, _, _, _, _, _, entryVerified hb hselected hwindow, rfl⟩

/-- What the log that made the two signatures holds. -/
def history (canonicalizedBody : Bytes) : LogHistory :=
  ⟨{(canonicalizedBody, 1704067205, 7)}, {(noteBody, [[], canonicalizedBody])}⟩

/-- The signed text is the head of the two-entry tree. -/
theorem isTreeHead (hb : b ≠ []) : IsTreeHead (externals b) noteBody [[], b] := by
  refine ⟨checkpointText, checkpoint, parseCheckpoint_text, rfl, rfl, ?_⟩
  have hmth : mth (externals b).sha256 [[], b] = rootHash := by
    simp [mth, splitPoint_two, nodeHash, leafHash, sha256_emptyLeaf, sha256_bodyLeaf hb,
      sha256_root]
  rw [hmth]
  rfl

/-- What the log's key verifies is what the log signed. -/
theorem signs (hb : b ≠ []) {message signature : Bytes}
    (h : (EcdsaVerifyingKey.p256 logPoint).verifyDer (externals b) message signature = true) :
    (history b).Signs (externals b) logKeyId message := by
  simp only [EcdsaVerifyingKey.verifyDer, externals, true_and, decide_eq_true_eq] at h
  rcases h with ⟨rfl, -⟩ | ⟨rfl, -⟩
  · exact .promise rfl
  · exact .head rfl (isTreeHead hb)

/-- The document of that body, as text. -/
def canonicalizedBody : Bytes := storedText envelopeHash payloadHash [1] verifierPem

/-- The body's text is not empty. -/
theorem canonicalizedBody_ne : canonicalizedBody ≠ [] := by
  obtain ⟨rest, hrest⟩ := exists_storedText envelopeHash payloadHash [1] verifierPem
  rw [canonicalizedBody, hrest]
  exact List.cons_ne_nil _ _

/-- The accepted entry is in the history of the log that signed for it. -/
theorem holds_sample :
    (history canonicalizedBody).Holds (externals canonicalizedBody) (bundle canonicalizedBody)
        ⟨1704067205, 7⟩ ∧
      ∀ (body keyId : Bytes) (time index : UInt64) (envelope : Str)
        (checkpoint : ParsedCheckpoint), parseCheckpoint envelope = .ok checkpoint →
          setSignedBytes body time keyId index ≠ utf8 checkpoint.noteBody := by
  have hselected : selectLog (externals canonicalizedBody) (trustStore [log ⟨0, none⟩])
      logKeyId.bytes = some (log ⟨0, none⟩) := by
    simp [selectLog, trustStore, log, sha256_logSpki]
  refine verifyTlogEntry_sound ?_
    (verifyTlogEntry_eq canonicalizedBody_ne hselected ⟨by decide, by simp⟩)
  intro entry hentry log' logKey h message signature hverify
  obtain rfl := List.mem_singleton.mp hentry
  obtain rfl : log ⟨0, none⟩ = log' := Option.some.inj (hselected.symm.trans h.selected)
  obtain rfl : .p256 logPoint = logKey := Except.ok.inj (fromSpkiDer_log.symm.trans h.key)
  rw [show (log ⟨0, none⟩).publicKey.rawBytes = logSpki from rfl, sha256_logSpki]
  exact signs canonicalizedBody_ne hverify

end Sample

end AttestationVerify
