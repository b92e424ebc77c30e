import AttestationVerify.Issuance
import Mathlib.Data.List.Perm.Basic

namespace AttestationVerify

open Wire

/-!
# Unauthenticated metadata

Much of a trust store and of a bundle is covered by no signature, and some of it steers the checks
all the same: a log's URL and the names on the signature lines decide which signatures are tried
first.  None of it decides the result.

* `TrustStore.strip`, `SameBundle` — what may differ between two runs;
* `SameOutcome` — what may differ between their results;
* `verifyDigest_sameOutcome` — runs that differ in metadata only come out the same.
-/

variable {X : Externals}

/-! ### The trust store -/

/-- A log without its URL, algorithm labels and id label. -/
def TransparencyLog.strip (log : TransparencyLog) : TransparencyLog where
  baseUrl := []
  hashAlgorithm := []
  publicKey := { log.publicKey with keyDetails := [] }
  logIdKeyId := []
  checkpointKeyId := log.checkpointKeyId

/-- A CT log without its labels. -/
def CtLog.strip (log : CtLog) : CtLog where
  baseUrl := []
  hashAlgorithm := []
  publicKey := { log.publicKey with keyDetails := [] }
  logIdKeyId := []

/-- An authority without its name and URI. -/
def CertificateAuthority.strip (ca : CertificateAuthority) : CertificateAuthority where
  subject := ⟨[], []⟩
  uri := []
  certificates := ca.certificates
  validFor := ca.validFor

/-- What is left of a trust store without labels, timestamp authorities and provenance. -/
def TrustStore.strip (trustStore : TrustStore) : TrustStore where
  mediaType := []
  tlogs := trustStore.tlogs.map TransparencyLog.strip
  ctlogs := trustStore.ctlogs.map CtLog.strip
  certificateAuthorities := trustStore.certificateAuthorities.map CertificateAuthority.strip
  timestampAuthorities := []
  fingerprint := []
  source := []

/-- A log is selected by its key, whatever its labels. -/
theorem selectLog_strip (trustStore : TrustStore) (logId : Bytes) :
    selectLog X trustStore.strip logId =
      (selectLog X trustStore logId).map TransparencyLog.strip := by
  unfold selectLog TrustStore.strip
  rw [List.find?_map]
  rfl

/-- A CT log is selected just as without its metadata. -/
theorem selectCtLog_strip (trustStore : TrustStore) (logId : Octets 32) :
    selectCtLog X trustStore.strip logId = (selectCtLog X trustStore logId).map CtLog.strip := by
  unfold selectCtLog TrustStore.strip
  rw [List.find?_map]
  rfl

/-- The passes that a log's URL splits the candidates into find together what one pass finds. -/
theorem any_passes_eq {α : Type} {p : α → Prop} [DecidablePred p] {f : α → Bool} {l : List α} :
    ((l.filter fun x => p x).any f || (l.filter fun x => ¬ p x).any f) = l.any f := by
  rw [Bool.eq_iff_iff, any_passes, List.any_eq_true]

/-- A log's URL does not decide whether its checkpoint verifies. -/
theorem verifyCheckpoint_strip (envelope : Str) (treeSize : UInt64) (rootHash : Bytes)
    (log : TransparencyLog) (logKey : EcdsaVerifyingKey) :
    verifyCheckpoint X envelope treeSize rootHash log.strip logKey =
      verifyCheckpoint X envelope treeSize rootHash log logKey := by
  simp only [verifyCheckpoint, any_passes_eq]
  rfl

/-- The whole transparency check reads what `strip` leaves. -/
theorem verifyTlogEntry_strip (bundle : Bundle) (trustStore : TrustStore)
    (policy : CheckpointOriginPolicy) :
    verifyTlogEntry X bundle trustStore.strip policy =
      verifyTlogEntry X bundle trustStore policy := by
  unfold verifyTlogEntry
  refine bind_congr fun tlogEntry => bind_congr fun body => bind_congr fun _ => ?_
  simp only [selectLogKey, selectLog_strip]
  -- the same log is selected on both sides, under other labels
  cases selectLog X trustStore tlogEntry.logIdKeyId with
  | none => rfl
  | some log =>
    simp only [Option.map_some, okOr_some, ok_bind, bind_assoc, pure_bind, verifyCheckpoint_strip]
    rfl

/-- The search over the authorities ends the same way, error for error. -/
theorem tryCandidates_strip (leaf : X509Certificate) (t : ℤ) (cas : List CertificateAuthority)
    (firstError : Option Error) :
    tryCandidates X leaf t (cas.map CertificateAuthority.strip) firstError =
      tryCandidates X leaf t cas firstError := by
  -- candidate by candidate, with the same error kept so far
  induction cas generalizing firstError with
  | nil => rfl
  | cons ca rest ih =>
    have hca : tryValidateAgainstCa X leaf ca.strip t = tryValidateAgainstCa X leaf ca t := rfl
    simp only [List.map_cons, tryCandidates, hca, ih]

/-- The chain is validated alike. -/
theorem validateChain_strip (leafDer : Bytes) (trustStore : TrustStore) (t : ℤ) :
    validateChain X leafDer trustStore.strip t = validateChain X leafDer trustStore t := by
  unfold validateChain
  refine bind_congr fun leaf => ?_
  exact tryCandidates_strip leaf t trustStore.certificateAuthorities none

/-- An SCT verifies just as without the logs' metadata. -/
theorem verifyOneSct_strip (sct : ParsedSct) (precertTbs : Bytes) (issuerKeyHash : Octets 32)
    (trustStore : TrustStore) :
    verifyOneSct X sct precertTbs issuerKeyHash trustStore.strip =
      verifyOneSct X sct precertTbs issuerKeyHash trustStore := by
  simp only [verifyOneSct, selectCtLog_strip]
  cases selectCtLog X trustStore sct.logId <;> rfl

/-- The embedded SCTs are verified alike. -/
theorem verifyEmbeddedScts_strip (validated : ValidatedLeaf) (trustStore : TrustStore) :
    verifyEmbeddedScts X validated trustStore.strip =
      verifyEmbeddedScts X validated trustStore := by
  have hscts (precertTbs : Bytes) (issuerKeyHash : Octets 32) (scts : List ParsedSct)
      (firstError : Option Error) :
      tryScts X precertTbs issuerKeyHash trustStore.strip scts firstError =
        tryScts X precertTbs issuerKeyHash trustStore scts firstError := by
    induction scts generalizing firstError with
    | nil => rfl
    | cons sct rest ih => simp only [tryScts, verifyOneSct_strip, ih]
  simp only [verifyEmbeddedScts, hscts]

/-! ### The checkpoint -/

/-- Two signature lines that differ in the name of the key at most. -/
def Renamed (line line' : Str) : Prop :=
  ∃ name name' blob, line = checkpointSignaturePrefix ++ (name ++ ' ' :: blob) ∧
    line' = checkpointSignaturePrefix ++ (name' ++ ' ' :: blob) ∧ ' ' ∉ name ∧ ' ' ∉ name'

/-- The lines of a signature block that are not blank. -/
def signatureLines (block : Str) : List Str := (lines block).filter (· ≠ [])

/-- The signature lines of `block` in any order, under any names and with any blank lines between
    them. -/
def SameSignatureLines (block block' : Str) : Prop :=
  ∃ reordered, reordered.Perm (signatureLines block) ∧
    List.Forall₂ Renamed reordered (signatureLines block')

/-- A checkpoint that parses, and one that differs from it in its signature lines only. -/
structure Relabelled (envelope envelope' : Str) : Prop where
  accepted : ∃ checkpoint, parseCheckpoint envelope = .ok checkpoint
  relabelled : ∃ bodyText block block', IsNote envelope bodyText block ∧
    IsNote envelope' bodyText block' ∧ SameSignatureLines block block'

/-- What a signature line says apart from the name. -/
def CheckpointSignature.unnamed (signature : CheckpointSignature) :
    Octets checkpointKeyHintBytes × Bytes :=
  (signature.keyHint, signature.signature)

/-- The name is split off before anything else is read. -/
theorem parseSignatureLine_renamed {line line' : Str} {signature : CheckpointSignature}
    (h : Renamed line line') (hparse : parseSignatureLine line = .ok signature) :
    ∃ signature', parseSignatureLine line' = .ok signature' ∧
      signature'.unnamed = signature.unnamed := by
  obtain ⟨name, name', blob, rfl, rfl, hname, hname'⟩ := h
  unfold parseSignatureLine at hparse ⊢
  rw [stripPrefix_append, okOr_some, ok_bind, splitOnce_append _ hname, okOr_some, ok_bind]
    at hparse
  rw [stripPrefix_append, okOr_some, ok_bind, splitOnce_append _ hname', okOr_some, ok_bind]
  simp only [bind_eq_ok, okOr_eq_ok, ensure_eq_ok, pure_eq_ok, Except.ok.injEq] at hparse ⊢
  -- hint and signature come out of the blob, which is the same
  obtain ⟨bytes, hblob, _, hlength, keyHint, hhint, rfl⟩ := hparse
  exact ⟨⟨name', keyHint, _⟩, ⟨bytes, hblob, (), hlength, keyHint, hhint, rfl⟩, rfl⟩

/-- Renamed lines parse to the same hints and signatures. -/
theorem parseSignatureLine_all_renamed {ls ls' : List Str} {signatures : List CheckpointSignature}
    (h : List.Forall₂ Renamed ls ls') (hparse : ls.mapM parseSignatureLine = .ok signatures) :
    ∃ signatures', ls'.mapM parseSignatureLine = .ok signatures' ∧
      signatures'.map CheckpointSignature.unnamed = signatures.map CheckpointSignature.unnamed := by
  simp only [mapM_eq_ok] at hparse ⊢
  induction h generalizing signatures with
  | nil =>
    cases hparse
    exact ⟨[], .nil, rfl⟩
  | cons hline _ ih =>
    cases hparse with
    | cons hsignature hrest =>
      obtain ⟨signature', hsignature', hunnamed⟩ := parseSignatureLine_renamed hline hsignature
      obtain ⟨rest', hrest', hunnamedRest⟩ := ih hrest
      refine ⟨signature' :: rest', .cons hsignature' hrest', ?_⟩
      rw [List.map_cons, List.map_cons, hunnamed, hunnamedRest]

/-- Relabelled lines say the same, name and order apart. -/
theorem parseSignatureLines_same {block block' : Str} {signatures : List CheckpointSignature}
    (h : SameSignatureLines block block') (hparse : parseSignatureLines block = .ok signatures) :
    ∃ signatures', parseSignatureLines block' = .ok signatures' ∧
      (signatures'.map CheckpointSignature.unnamed).Perm
        (signatures.map CheckpointSignature.unnamed) := by
  obtain ⟨reordered, hperm, hrenamed⟩ := h
  simp only [parseSignatureLines, bind_eq_ok, checkCount_eq_ok, ensure_eq_ok, pure_eq_ok,
    Except.ok.injEq] at hparse ⊢
  obtain ⟨_, hcount, _, hlines, _, hne, rfl⟩ := hparse
  -- reorder what was parsed along with the lines, then rename line by line
  obtain ⟨sorted, hsorted, hsortedPerm⟩ := List.perm_comp_forall₂ hperm (mapM_eq_ok.mp hlines)
  obtain ⟨signatures', hparse', hunnamed⟩ :=
    parseSignatureLine_all_renamed hrenamed (mapM_eq_ok.mpr hsorted)
  -- the two limits count lines, and there are as many
  have hcount' : (signatureLines block').length ≤ maxCheckpointSignatures := by
    rw [← hrenamed.length_eq, hperm.length_eq]
    exact hcount
  have hperm' := hunnamed ▸ hsortedPerm.map CheckpointSignature.unnamed
  have hne' : signatures' ≠ [] := by
    rintro rfl
    exact hne (by simpa using hperm'.symm)
  exact ⟨signatures', ⟨(), hcount', signatures', hparse', (), hne', rfl⟩, hperm'⟩

/-- A relabelled checkpoint has the same note and the same signatures in some order. -/
theorem parseCheckpoint_relabelled {envelope envelope' : Str} (h : Relabelled envelope envelope') :
    ∃ checkpoint signatures', parseCheckpoint envelope = .ok checkpoint ∧
      parseCheckpoint envelope' = .ok { checkpoint with signatures := signatures' } ∧
      (signatures'.map CheckpointSignature.unnamed).Perm
        (checkpoint.signatures.map CheckpointSignature.unnamed) := by
  obtain ⟨checkpoint, hparse⟩ := h.accepted
  obtain ⟨bodyText, block, block', hnote, hnote', hsame⟩ := h.relabelled
  rw [parseCheckpoint_of_isNote hnote] at hparse
  simp only [bind_eq_ok, pure_eq_ok, Except.ok.injEq] at hparse
  obtain ⟨body, hbody, signatures, hsignatures, rfl⟩ := hparse
  obtain ⟨signatures', hsignatures', hperm⟩ := parseSignatureLines_same hsame hsignatures
  refine ⟨⟨body.origin, body.treeSize, body.rootHash, bodyText ++ ['\n'], signatures⟩, signatures',
    ?_, ?_, hperm⟩
  · rw [parseCheckpoint_of_isNote hnote, hbody, ok_bind, hsignatures, ok_bind]
    rfl
  · rw [parseCheckpoint_of_isNote hnote', hbody, ok_bind, hsignatures', ok_bind]
    rfl

/-- Whether a candidate verifies is said by the lines without their names. -/
theorem any_candidate_perm {signatures signatures' : List CheckpointSignature}
    {keyHint : Octets checkpointKeyHintBytes} (verifies : Bytes → Bool)
    (h : (signatures'.map CheckpointSignature.unnamed).Perm
      (signatures.map CheckpointSignature.unnamed)) :
    (signatures'.filter (·.keyHint = keyHint)).any (fun s => verifies s.signature) =
      (signatures.filter (·.keyHint = keyHint)).any fun s => verifies s.signature := by
  have hmem (l : List CheckpointSignature) :
      (l.filter (·.keyHint = keyHint)).any (fun s => verifies s.signature) = true ↔
        ∃ u ∈ l.map CheckpointSignature.unnamed, u.1 = keyHint ∧ verifies u.2 = true := by
    simp [List.any_eq_true, CheckpointSignature.unnamed]
  rw [Bool.eq_iff_iff, hmem, hmem]
  -- a permutation has the same members
  simp only [h.mem_iff]

/-- All that is read of a verified checkpoint, its origin, is the same. -/
theorem verifyCheckpoint_relabelled {envelope envelope' : Str} (h : Relabelled envelope envelope')
    (treeSize : UInt64) (rootHash : Bytes) (log : TransparencyLog) (logKey : EcdsaVerifyingKey) :
    (verifyCheckpoint X envelope' treeSize rootHash log logKey).map ParsedCheckpoint.origin =
      (verifyCheckpoint X envelope treeSize rootHash log logKey).map ParsedCheckpoint.origin := by
  obtain ⟨checkpoint, signatures', hparse, hparse', hperm⟩ := parseCheckpoint_relabelled h
  simp only [map_eq_bind, verifyCheckpoint, any_passes_eq, bind_assoc, hparse, hparse', ok_bind,
    pure_bind]
  refine bind_congr fun _ => bind_congr fun _ => bind_congr fun keyHint => ?_
  -- the note is the same, so only the candidates are compared
  rw [any_candidate_perm (logKey.verifyDer X (utf8 checkpoint.noteBody)) hperm]

/-! ### The bundle -/

/-- Two inclusion proofs that agree but for the labels of the checkpoint. -/
structure SameProof (proof proof' : InclusionProof) : Prop where
  rest : proof' = { proof with checkpoint := proof'.checkpoint }
  checkpoint : proof'.checkpoint = proof.checkpoint ∨
    Relabelled proof.checkpoint.envelope proof'.checkpoint.envelope

/-- Two entries that agree but for the labels of the checkpoint. -/
structure SameEntry (tlogEntry tlogEntry' : TlogEntry) : Prop where
  rest : tlogEntry' = { tlogEntry with inclusionProof := tlogEntry'.inclusionProof }
  inclusionProof : Option.Rel SameProof tlogEntry.inclusionProof tlogEntry'.inclusionProof

/-- Two bundles that agree but for their media types, their RFC 3161 timestamps and the labels of
    their checkpoints. -/
structure SameBundle (bundle bundle' : Bundle) : Prop where
  dsseEnvelope : bundle'.dsseEnvelope = bundle.dsseEnvelope
  certificate : bundle'.verificationMaterial.certificate = bundle.verificationMaterial.certificate
  tlogEntries : List.Forall₂ SameEntry bundle.verificationMaterial.tlogEntries
    bundle'.verificationMaterial.tlogEntries

/-- The transparency check comes out the same on them. -/
theorem verifyTlogEntry_same {bundle bundle' : Bundle} (h : SameBundle bundle bundle')
    (trustStore : TrustStore) (policy : CheckpointOriginPolicy) :
    verifyTlogEntry X bundle' trustStore policy = verifyTlogEntry X bundle trustStore policy := by
  have hentries := h.tlogEntries
  unfold verifyTlogEntry
  rw [h.dsseEnvelope, h.certificate]
  -- the entries correspond one to one; go through how many there are
  generalize bundle.verificationMaterial.tlogEntries = entries at hentries ⊢
  generalize bundle'.verificationMaterial.tlogEntries = entries' at hentries ⊢
  cases hentries with
  | nil => rfl
  | @cons tlogEntry tlogEntry' rest rest' hentry hrest =>
    cases hrest with
    | cons _ hrest =>
      -- as many entries on both sides, and too many
      simp only [soleTlogEntry, List.length_cons, hrest.length_eq, error_bind]
    | nil =>
      obtain ⟨hrest, hproof⟩ := hentry
      generalize tlogEntry'.inclusionProof = proof' at hrest hproof
      subst hrest
      simp only [soleTlogEntry, ok_bind]
      -- body, binding and log are read from outside the inclusion proof
      refine bind_congr fun body => bind_congr fun _ => bind_congr fun selected => ?_
      obtain ⟨log, logKey⟩ := selected
      refine bind_congr fun _ => ?_
      generalize tlogEntry.inclusionProof = proof at hproof ⊢
      cases hproof with
      | none => rfl
      | @some proof proof' hproof =>
        obtain ⟨hrest, hcheckpoint⟩ := hproof
        generalize proof'.checkpoint = checkpoint' at hrest hcheckpoint
        subst hrest
        simp only [okOr_some, ok_bind]
        refine bind_congr fun _ => ?_
        rcases hcheckpoint with rfl | hcheckpoint
        · rfl
        · have horigin := verifyCheckpoint_relabelled (X := X) hcheckpoint proof.treeSize
            proof.rootHash log logKey
          -- of the verified checkpoint the rest of the steps read the origin
          refine bind_congr_map horigin fun c c' h => ?_
          simp only [h]

/-! ### Two runs -/

/-- The same error, or two reports that differ in the trust store they name only. -/
def SameOutcome : Except Error VerificationReport → Except Error VerificationReport → Prop
  | .ok report, .ok report' => report' = { report with trust := report'.trust }
  | .error e, .error e' => e' = e
  | _, _ => False

/-- **Metadata decides nothing.**  Verifiers whose trust stores agree but for labels, timestamp
    authorities and provenance come to the same outcome on bundles that agree but for media type,
    RFC 3161 timestamps and checkpoint labels. -/
theorem Verifier.verifyDigest_sameOutcome {verifier verifier' : Verifier X}
    {bundle bundle' : Bundle} (subject : Subject)
    (hstore : verifier'.trustStore.strip = verifier.trustStore.strip)
    (hgithub : verifier'.githubPolicy = verifier.githubPolicy)
    (horigins : verifier'.checkpointOriginPolicy = verifier.checkpointOriginPolicy)
    (hbundle : SameBundle bundle bundle') :
    SameOutcome (verifier.verifyDigest subject bundle)
      (verifier'.verifyDigest subject bundle') := by
  have hstatement : bundle'.statement X = bundle.statement X := by
    rw [Bundle.statement, hbundle.dsseEnvelope, Bundle.statement]
  -- each step that reads the trust store reads what `strip` leaves of it
  have hentry : verifyTlogEntry X bundle' verifier'.trustStore verifier'.checkpointOriginPolicy =
      verifyTlogEntry X bundle verifier.trustStore verifier.checkpointOriginPolicy := by
    rw [verifyTlogEntry_same hbundle, ← verifyTlogEntry_strip, hstore, horigins,
      verifyTlogEntry_strip]
  have hchain (leafDer : Bytes) (t : ℤ) : validateChain X leafDer verifier'.trustStore t =
      validateChain X leafDer verifier.trustStore t := by
    rw [← validateChain_strip, hstore, validateChain_strip]
  have hscts (validated : ValidatedLeaf) : verifyEmbeddedScts X validated verifier'.trustStore =
      verifyEmbeddedScts X validated verifier.trustStore := by
    rw [← verifyEmbeddedScts_strip, hstore, verifyEmbeddedScts_strip]
  have hauthenticate :
      verifier'.authenticate subject bundle' = verifier.authenticate subject bundle := by
    simp only [authenticate, hbundle.dsseEnvelope, hbundle.certificate, hstatement, hentry, hchain,
      hscts]
  rw [verifyDigest_eq, verifyDigest_eq, hauthenticate, hgithub]
  cases verifier.authenticate subject bundle with
  | error e => rfl
  | ok a =>
    rw [ok_bind, ok_bind]
    cases matchPolicy a.claims verifier.githubPolicy <;> rfl

-- unfolded, it would run both verifiers
attribute [irreducible] SameOutcome

/-! ### A checkpoint under other labels -/

/-- Two lines with one hint and one signature differ in their names only. -/
theorem renamed_renderSignatureLine {s s' : WritableSignature} (h : s'.unnamed = s.unnamed) :
    Renamed (renderSignatureLine s.toCheckpointSignature)
      (renderSignatureLine s'.toCheckpointSignature) := by
  obtain ⟨hhint, hsignature⟩ := Prod.mk.inj h
  refine ⟨s.name, s'.name, Base64.encode (s.keyHint.bytes ++ s.signature), ?_, ?_, s.name_space,
    s'.name_space⟩
  · rw [renderSignatureLine, List.append_assoc]
  · rw [renderSignatureLine, List.append_assoc, hhint, hsignature]

/-- Blank lines before the signatures are no signature lines. -/
theorem signatureLines_blank (n : ℕ) (signatures : List WritableSignature) :
    signatureLines (terminated (List.replicate n [] ++ renderSignatureLines signatures)) =
      renderSignatureLines signatures := by
  induction n with
  | zero => exact lines_renderSignatureLines signatures
  | succ n ih =>
    have hblank (text : Str) : signatureLines ('\n' :: text) = signatureLines text := by
      rw [signatureLines, ← List.nil_append ('\n' :: text), lines_append List.not_mem_nil]
      rfl
    rw [List.replicate_succ, List.cons_append, terminated_cons]
    exact (hblank _).trans ih

/-- One note with its lines in another order, under other names and after blank lines. -/
theorem relabelled_render (note : CheckpointNote) (n : ℕ)
    {signatures reordered signatures' : List WritableSignature} (hne : signatures ≠ [])
    (hcount : signatures.length ≤ maxCheckpointSignatures) (hperm : reordered.Perm signatures)
    (hsame : List.Forall₂ (fun s s' => s'.unnamed = s.unnamed) reordered signatures') :
    Relabelled (note.render (renderSignatureLines signatures))
      (note.render (List.replicate n [] ++ renderSignatureLines signatures')) where
  accepted := by
    refine ⟨⟨note.origin, note.treeSize, note.rootHash, note.noteBody,
      signatures.map (·.toCheckpointSignature)⟩, ?_⟩
    rw [parseCheckpoint_render, parseSignatureLines_render hne hcount]
    rfl
  relabelled := by
    refine ⟨_, _, _, isNote_render _ _, isNote_render _ _, renderSignatureLines reordered, ?_, ?_⟩
    · rw [show signatureLines (terminated (renderSignatureLines signatures)) = _ from
        lines_renderSignatureLines signatures]
      exact hperm.map _
    · rw [signatureLines_blank, renderSignatureLines, renderSignatureLines,
        List.forall₂_map_left_iff, List.forall₂_map_right_iff]
      exact hsame.imp fun _ _ h => renamed_renderSignatureLine h

namespace Specimen

/-- The verifier with its log under another URL, from another source. -/
def relabelledVerifier : Verifier externals :=
  { verifier with
    trustStore := { trustStore with tlogs := [{ log with baseUrl := ['u'] }], source := ['s'] }
    keys_known := List.forall_mem_singleton.mpr ⟨_, List.mem_singleton_self _, sha256_logSpki⟩ }

/-- The checkpoint's lines backwards, each under another name. -/
def relabelledLines : List WritableSignature :=
  [{ unknownLine with name := ['a'], name_space := by decide, name_lf := by decide },
    { witnessLine with name := ['b'], name_space := by decide, name_lf := by decide },
    { noteLine with name := ['c'], name_space := by decide, name_lf := by decide }]

/-- The checkpoint with a blank line before them. -/
def relabelledCheckpoint : Checkpoint :=
  ⟨(noteOver 3 rootHash).render (List.replicate 1 [] ++ renderSignatureLines relabelledLines)⟩

/-- The entry with that checkpoint. -/
def relabelledEntry : TlogEntry :=
  { publication.tlogEntry externals (externals.sha256 log.publicKey.rawBytes) canonicalizedBody with
    inclusionProof :=
      some { publication.proof externals with checkpoint := relabelledCheckpoint } }

/-- The bundle with that entry, another media type and a timestamp. -/
def relabelledBundle : Bundle :=
  ⟨[], ⟨⟨leafDer⟩, [relabelledEntry], ⟨[⟨[1]⟩]⟩⟩, envelope⟩

/-- The checkpoint of the sample, relabelled. -/
theorem relabelled_checkpoint :
    Relabelled (publication.proof externals).checkpoint.envelope relabelledCheckpoint.envelope :=
  relabelled_render (noteOver 3 rootHash) 1 (by simp [publication]) (by decide)
    (List.reverse_perm publication.signatures) (.cons rfl (.cons rfl (.cons rfl .nil)))

/-- The entry differs in its checkpoint only. -/
theorem sameEntry_relabelled :
    SameEntry (publication.tlogEntry externals (externals.sha256 log.publicKey.rawBytes)
      canonicalizedBody) relabelledEntry where
  rest := rfl
  inclusionProof := .some ⟨rfl, .inr relabelled_checkpoint⟩

/-- The bundle differs in its labels only. -/
theorem sameBundle_relabelled : SameBundle bundle relabelledBundle where
  dsseEnvelope := rfl
  certificate := rfl
  tlogEntries := by
    rw [entries_bundle]
    exact .cons sameEntry_relabelled .nil

/-- The trust stores differ in labels only. -/
theorem strip_relabelledVerifier :
    relabelledVerifier.trustStore.strip = verifier.trustStore.strip := rfl

end Specimen

/-- The sample under other labels comes to the outcome it came to. -/
theorem Verifier.verifyDigest_sameOutcome_specimen :
    Specimen.verifier.verifyDigest Specimen.subject Specimen.bundle = .ok Specimen.report ∧
      SameOutcome (Specimen.verifier.verifyDigest Specimen.subject Specimen.bundle)
        (Specimen.relabelledVerifier.verifyDigest Specimen.subject Specimen.relabelledBundle) :=
  ⟨Specimen.accepted, Verifier.verifyDigest_sameOutcome Specimen.subject
    Specimen.strip_relabelledVerifier rfl rfl Specimen.sameBundle_relabelled⟩

end AttestationVerify
