import AttestationVerify.Dsse
import AttestationVerify.Trust

namespace AttestationVerify

open Wire

/-!
# Checkpoints

`rekor.rs`, fourth part: the signed note a log publishes its tree head in.

* `parseCheckpoint` — the note body up to the blank line, and the signature lines after it;
* `parseNoteBody_of_parseCheckpoint` — what a parsed checkpoint says is read off the signed text;
* `verifyCheckpoint` — the tree head of the proof, signed under the log's key.
-/

/-- EM DASH, SPACE. -/
def checkpointSignaturePrefix : Str := ['\u2014', ' ']

/-- The length of a key hint. -/
def checkpointKeyHintBytes : ℕ := 4

/-- A parsed signature line. -/
structure CheckpointSignature where
  /-- Not covered by the signature; it only orders the candidates. -/
  name : Str
  keyHint : Octets checkpointKeyHintBytes
  signature : Bytes
  deriving DecidableEq

/-- A parsed checkpoint. -/
structure ParsedCheckpoint where
  origin : Str
  treeSize : UInt64
  rootHash : Bytes
  /-- The signed text, through the line feed before the blank line. -/
  noteBody : Str
  signatures : List CheckpointSignature
  deriving DecidableEq

/-- A checkpoint parse error, with its reason. -/
def malformed (reason : String) : Error := .parse (.checkpoint reason)

/-! ### Parsing -/

/-- The fields of a note body. -/
structure NoteBody where
  origin : Str
  treeSize : UInt64
  rootHash : Bytes
  deriving DecidableEq

/-- Origin, tree size and root hash, a line each; any further lines are extensions. -/
def parseNoteBody (bodyText : Str) : Except Error NoteBody := do
  let (origin, bodyWithoutOrigin) ←
    okOr (splitOnce '\n' bodyText) (malformed "missing origin line")
  ensure (origin ≠ []) (malformed "missing origin line")
  let bodyLines := lines bodyWithoutOrigin
  let treeSizeLine ← okOr bodyLines[0]? (malformed "missing treeSize line")
  let treeSize ←
    okOr (parseU64 treeSizeLine) (malformed "treeSize line is not a valid unsigned integer")
  let rootHashLine ← okOr bodyLines[1]? (malformed "missing rootHash line")
  let rootHash ← strictBase64 "checkpoint rootHash line" rootHashLine
  pure ⟨origin, treeSize, rootHash⟩

/-- A signature line: the marker, a name, and the hint and signature in base64. -/
def parseSignatureLine (line : Str) : Except Error CheckpointSignature := do
  let rest ← okOr (stripPrefix checkpointSignaturePrefix line)
    (malformed "signature line missing \"— \" marker")
  let (name, blobB64) ← okOr (splitOnce ' ' rest)
    (malformed "signature line missing name/signature separator")
  let blob ← strictBase64 "checkpoint signature line" blobB64
  ensure (checkpointKeyHintBytes < blob.length)
    (malformed "signature blob shorter than the 4-byte key hint")
  let keyHint ← okOr (toOctets checkpointKeyHintBytes (blob.take checkpointKeyHintBytes))
    (malformed "signature blob has a malformed key hint")
  pure ⟨name, keyHint, blob.drop checkpointKeyHintBytes⟩

/-- The lines that are not empty are counted before any of them is decoded. -/
def parseSignatureLines (signatureText : Str) : Except Error (List CheckpointSignature) := do
  let signatureLines := (lines signatureText).filter (· ≠ [])
  checkCount signatureLines maxCheckpointSignatures .tooManyCheckpointSignatures
  let signatures ← signatureLines.mapM parseSignatureLine
  ensure (signatures ≠ []) (malformed "no signature lines found")
  pure signatures

/-- `parse_checkpoint`: the text up to the first blank line, then the signature lines. -/
def parseCheckpoint (envelope : Str) : Except Error ParsedCheckpoint := do
  let blankLineAt ← okOr (findSub ['\n', '\n'] envelope)
    (malformed "missing blank line separating body from signatures")
  let noteBody := envelope.take (blankLineAt + 1)
  let body ← parseNoteBody (envelope.take blankLineAt)
  let signatures ← parseSignatureLines (envelope.drop (blankLineAt + 2))
  pure ⟨body.origin, body.treeSize, body.rootHash, noteBody, signatures⟩

/-- `envelope` is `bodyText` up to its first blank line, and `block` after that. -/
structure IsNote (envelope bodyText block : Str) : Prop where
  split : envelope = bodyText ++ ['\n', '\n'] ++ block
  first : ¬ ['\n', '\n'] <:+: bodyText ++ ['\n']

/-- The two parts of a note are parsed apart from one another. -/
theorem parseCheckpoint_of_isNote {envelope bodyText block : Str}
    (h : IsNote envelope bodyText block) :
    parseCheckpoint envelope = (do
      let body ← parseNoteBody bodyText
      let signatures ← parseSignatureLines block
      pure ⟨body.origin, body.treeSize, body.rootHash, bodyText ++ ['\n'], signatures⟩) := by
  obtain ⟨rfl, hfirst⟩ := h
  -- the search finds the first blank line, and the slices are the parts around it
  have hblank : findSub ['\n', '\n'] (bodyText ++ ['\n', '\n'] ++ block) = some bodyText.length :=
    (findSub_append_iff block (by simp)).mpr hfirst
  have hnote : (bodyText ++ ['\n', '\n'] ++ block).take (bodyText.length + 1) =
      bodyText ++ ['\n'] := by
    rw [show bodyText ++ ['\n', '\n'] ++ block = (bodyText ++ ['\n']) ++ ('\n' :: block) by simp]
    exact List.take_left' (by simp)
  have hbody : (bodyText ++ ['\n', '\n'] ++ block).take bodyText.length = bodyText := by
    simp
  have hblock : (bodyText ++ ['\n', '\n'] ++ block).drop (bodyText.length + 2) = block := by
    simp [List.drop_append, List.drop_of_length_le]
  unfold parseCheckpoint
  rw [hblank, okOr_some, ok_bind, hnote, hbody, hblock]

/-- What parses is a note. -/
theorem exists_isNote {envelope : Str} {checkpoint : ParsedCheckpoint}
    (h : parseCheckpoint envelope = .ok checkpoint) :
    ∃ bodyText block, IsNote envelope bodyText block := by
  simp only [parseCheckpoint, bind_eq_ok, okOr_eq_ok] at h
  obtain ⟨i, hblank, -⟩ := h
  have hsplit := findSub_spec hblank
  have hlength := length_take_of_findSub (by simp) hblank
  refine ⟨envelope.take i, envelope.drop (i + 2), hsplit, ?_⟩
  -- the index found is the length of the text before it
  have hblank' : findSub ['\n', '\n'] (envelope.take i ++ ['\n', '\n'] ++ envelope.drop (i + 2)) =
      some (envelope.take i).length := by
    rw [hlength]
    exact hsplit ▸ hblank
  exact (findSub_append_iff _ (by simp)).mp hblank'

/-- **What a checkpoint says is read off the signed text**, which is the text parsed and the line
    feed after it. -/
theorem parseNoteBody_of_parseCheckpoint {envelope : Str} {checkpoint : ParsedCheckpoint}
    (h : parseCheckpoint envelope = .ok checkpoint) :
    ∃ bodyText, checkpoint.noteBody = bodyText ++ ['\n'] ∧ parseNoteBody bodyText =
      .ok ⟨checkpoint.origin, checkpoint.treeSize, checkpoint.rootHash⟩ := by
  obtain ⟨bodyText, block, hnote⟩ := exists_isNote h
  rw [parseCheckpoint_of_isNote hnote] at h
  simp only [bind_eq_ok, pure_eq_ok, Except.ok.injEq] at h
  obtain ⟨body, hbody, signatures, -, rfl⟩ := h
  exact ⟨bodyText, rfl, hbody⟩

/-- The lines that are not empty are parsed one by one, and their number is bounded. -/
theorem parseSignatureLines_eq_ok {signatureText : Str} {signatures : List CheckpointSignature} :
    parseSignatureLines signatureText = .ok signatures ↔
      ((lines signatureText).filter (· ≠ [])).length ≤ maxCheckpointSignatures ∧
        List.Forall₂ (fun line signature => parseSignatureLine line = .ok signature)
          ((lines signatureText).filter (· ≠ [])) signatures ∧ signatures ≠ [] := by
  simp only [parseSignatureLines, bind_eq_ok, checkCount_eq_ok, mapM_eq_ok, ensure_eq_ok,
    pure_eq_ok, Except.ok.injEq]
  constructor
  · intro h
    obtain ⟨_, hcount, _, hlines, _, hne, rfl⟩ := h
    exact ⟨hcount, hlines, hne⟩
  · intro h
    obtain ⟨hcount, hlines, hne⟩ := h
    exact ⟨(), hcount, signatures, hlines, (), hne, rfl⟩

/-- The bound on the lines is one on the signatures. -/
theorem length_signatures_le {envelope : Str} {checkpoint : ParsedCheckpoint}
    (h : parseCheckpoint envelope = .ok checkpoint) :
    checkpoint.signatures.length ≤ maxCheckpointSignatures := by
  obtain ⟨bodyText, block, hnote⟩ := exists_isNote h
  rw [parseCheckpoint_of_isNote hnote] at h
  simp only [bind_eq_ok, pure_eq_ok, Except.ok.injEq] at h
  obtain ⟨body, -, signatures, hsignatures, rfl⟩ := h
  obtain ⟨hcount, hlines, -⟩ := parseSignatureLines_eq_ok.mp hsignatures
  exact hlines.length_eq ▸ hcount

/-- Two checkpoints over one signed text say the same. -/
theorem parseCheckpoint_noteBody_inj {envelope envelope' : Str}
    {checkpoint checkpoint' : ParsedCheckpoint} (h : parseCheckpoint envelope = .ok checkpoint)
    (h' : parseCheckpoint envelope' = .ok checkpoint')
    (hnote : checkpoint.noteBody = checkpoint'.noteBody) :
    checkpoint.origin = checkpoint'.origin ∧ checkpoint.treeSize = checkpoint'.treeSize ∧
      checkpoint.rootHash = checkpoint'.rootHash := by
  obtain ⟨bodyText, hbody, hparse⟩ := parseNoteBody_of_parseCheckpoint h
  obtain ⟨bodyText', hbody', hparse'⟩ := parseNoteBody_of_parseCheckpoint h'
  obtain rfl : bodyText = bodyText' :=
    List.append_cancel_right (hbody.symm.trans (hnote.trans hbody'))
  have hfields := Except.ok.inj (hparse.symm.trans hparse')
  simpa only [NoteBody.mk.injEq] using hfields

/-! ### Verification -/

/-- `None` for a checkpoint key id too short to hold a hint. -/
def checkpointKeyHint (X : Externals) (log : TransparencyLog) :
    Option (Octets checkpointKeyHintBytes) :=
  match log.checkpointKeyId with
  | some checkpointKeyId =>
    toOctets checkpointKeyHintBytes (checkpointKeyId.take checkpointKeyHintBytes)
  | none =>
    toOctets checkpointKeyHintBytes
      ((X.sha256 log.publicKey.rawBytes).bytes.take checkpointKeyHintBytes)

/-- The signer's name is the log's URL, with or without its scheme. -/
def checkpointKeyNameMatches (log : TransparencyLog) (name : Str) : Prop :=
  name = log.baseUrl ∨ some name = stripPrefix "https://".toList log.baseUrl

instance (log : TransparencyLog) (name : Str) : Decidable (checkpointKeyNameMatches log name) :=
  inferInstanceAs (Decidable (_ ∨ _))

/-- Lines whose name matches the log are tried first, the others after them. -/
def verifyCheckpoint (X : Externals) (envelope : Str) (proofTreeSize : UInt64)
    (proofRootHash : Bytes) (log : TransparencyLog) (logKey : EcdsaVerifyingKey) :
    Except Error ParsedCheckpoint := do
  let checkpoint ← parseCheckpoint envelope
  ensure (checkpoint.treeSize = proofTreeSize) (.transparency .checkpointTreeSizeMismatch)
  ensure (checkpoint.rootHash = proofRootHash) (.transparency .checkpointRootHashMismatch)
  let noteBodyBytes := utf8 checkpoint.noteBody
  let keyHint ← okOr (checkpointKeyHint X log) (.transparency .checkpointSignatureInvalid)
  -- no line with the hint is passed over for its name
  let candidates := checkpoint.signatures.filter (·.keyHint = keyHint)
  let verifies (signature : CheckpointSignature) : Bool :=
    logKey.verifyDer X noteBodyBytes signature.signature
  let verified :=
    (candidates.filter fun signature => checkpointKeyNameMatches log signature.name).any verifies ||
    (candidates.filter fun signature => ¬ checkpointKeyNameMatches log signature.name).any verifies
  ensure verified (.transparency .checkpointSignatureInvalid)
  pure checkpoint

/-- The envelope is a checkpoint over the given tree head, signed under the log's key. -/
structure CheckpointSigned (X : Externals) (envelope : Str) (treeSize : UInt64) (rootHash : Bytes)
    (log : TransparencyLog) (logKey : EcdsaVerifyingKey) (checkpoint : ParsedCheckpoint) :
    Prop where
  parsed : parseCheckpoint envelope = .ok checkpoint
  treeSize_eq : checkpoint.treeSize = treeSize
  rootHash_eq : checkpoint.rootHash = rootHash
  signed : ∃ signature ∈ checkpoint.signatures,
    checkpointKeyHint X log = some signature.keyHint ∧
      logKey.verifyDer X (utf8 checkpoint.noteBody) signature.signature = true

/-- The order of the two passes does not matter to the verdict. -/
theorem any_passes {α : Type} {p : α → Prop} [DecidablePred p] {f : α → Bool} {l : List α} :
    ((l.filter fun x => p x).any f || (l.filter fun x => ¬ p x).any f) = true ↔
      ∃ x ∈ l, f x = true := by
  simp only [Bool.or_eq_true, List.any_eq_true, List.mem_filter, decide_eq_true_eq]
  constructor
  · intro h
    rcases h with ⟨x, ⟨hx, -⟩, hf⟩ | ⟨x, ⟨hx, -⟩, hf⟩
    · exact ⟨x, hx, hf⟩
    · exact ⟨x, hx, hf⟩
  · intro h
    obtain ⟨x, hx, hf⟩ := h
    by_cases hp : p x
    · exact .inl ⟨x, ⟨hx, hp⟩, hf⟩
    · exact .inr ⟨x, ⟨hx, hp⟩, hf⟩

/-- A checkpoint verifies exactly if it is signed as stated. -/
theorem verifyCheckpoint_eq_ok {X : Externals} {envelope : Str} {treeSize : UInt64}
    {rootHash : Bytes} {log : TransparencyLog} {logKey : EcdsaVerifyingKey}
    {checkpoint : ParsedCheckpoint} :
    verifyCheckpoint X envelope treeSize rootHash log logKey = .ok checkpoint ↔
      CheckpointSigned X envelope treeSize rootHash log logKey checkpoint := by
  simp only [verifyCheckpoint, bind_eq_ok, ensure_eq_ok, okOr_eq_ok, pure_eq_ok, Except.ok.injEq,
    any_passes, List.mem_filter, decide_eq_true_eq]
  constructor
  · intro h
    obtain ⟨c, hparse, _, hsize, _, hroot, hint, hhint, _, ⟨s, ⟨hs, rfl⟩, hverify⟩, rfl⟩ := h
    exact ⟨hparse, hsize, hroot, s, hs, hhint, hverify⟩
  · intro h
    obtain ⟨hparse, hsize, hroot, s, hs, hhint, hverify⟩ := h
    exact ⟨checkpoint, hparse, (), hsize, (), hroot, s.keyHint, hhint, (),
      ⟨s, ⟨hs, rfl⟩, hverify⟩, rfl⟩

end AttestationVerify
