import AttestationVerify.Rekor.Checkpoint

namespace AttestationVerify

open Wire

/-!
# Signed notes, as logs write them

The notes a log can issue and what `parse_checkpoint` makes of them; then the converse, which of the
texts it accepts are spelled as a log spells them.

* `CheckpointNote` — a tree head to be written, `WritableSignature` — a signature line for it;
* `renderedCheckpoint_spec` — what is written is read back, up to 32 lines; more are refused;
* `canonical_iff` — an accepted text starts as a log would write it exactly when its second and
  third lines are spelled canonically.
-/

/-! ### Writing a note -/

/-- A tree head that can be written as a note. -/
structure CheckpointNote where
  origin : Str
  treeSize : UInt64
  rootHash : Bytes
  extensions : List Str
  origin_ne : origin ≠ []
  origin_lf : '\n' ∉ origin
  rootHash_ne : rootHash ≠ []
  extensions_ne : ∀ line ∈ extensions, line ≠ []
  extensions_lf : ∀ line ∈ extensions, '\n' ∉ line

/-- A signature line that can be written. -/
structure WritableSignature extends CheckpointSignature where
  name_space : ' ' ∉ name
  name_lf : '\n' ∉ name
  signature_ne : signature ≠ []

namespace CheckpointNote

variable (note : CheckpointNote)

/-- The lines of the signed text. -/
def bodyLines : List Str :=
  note.origin :: decimal note.treeSize.toNat :: Base64.encode note.rootHash :: note.extensions

/-- The signed text: its lines, each ended by a line feed. -/
def noteBody : Str := terminated note.bodyLines

/-- The note with its signature lines after a blank one. -/
def render (signatureLines : List Str) : Str :=
  note.noteBody ++ '\n' :: terminated signatureLines

end CheckpointNote

/-- A signature line. -/
def renderSignatureLine (s : CheckpointSignature) : Str :=
  checkpointSignaturePrefix ++ s.name ++ ' ' :: Base64.encode (s.keyHint.bytes ++ s.signature)

/-! ### Reading it back -/

/-- A last character that is no carriage return. -/
theorem dropCr_eq_self {l : Str} (h : '\r' ∉ l) : dropCr l = l :=
  dropCr_of fun hlast => h (List.mem_of_getLast? hlast)

/-- A number has no carriage return. -/
theorem cr_not_mem_decimal (n : ℕ) : '\r' ∉ decimal n := not_mem_decimal (by decide) n

/-- Base64 has no carriage return. -/
theorem cr_not_mem_encode (b : Bytes) : '\r' ∉ Base64.encode b :=
  Base64.not_mem_encode (by decide) b

/-- Base64 has no line feed. -/
theorem lf_not_mem_encode (b : Bytes) : '\n' ∉ Base64.encode b :=
  Base64.not_mem_encode (by decide) b

/-- Only no bytes are encoded as no text. -/
theorem encode_eq_nil {b : Bytes} (h : Base64.encode b = []) : b = [] :=
  Base64.encode_injective h

section

variable (note : CheckpointNote)

/-- No line of the body is empty. -/
theorem bodyLines_ne : ∀ line ∈ note.bodyLines, line ≠ [] := by
  simp only [CheckpointNote.bodyLines, List.forall_mem_cons]
  exact ⟨note.origin_ne, decimal_ne_nil _, fun h => note.rootHash_ne (encode_eq_nil h),
    note.extensions_ne⟩

/-- No line of the body holds a line feed. -/
theorem bodyLines_lf : ∀ line ∈ note.bodyLines, '\n' ∉ line := by
  simp only [CheckpointNote.bodyLines, List.forall_mem_cons]
  exact ⟨note.origin_lf, not_mem_decimal (by decide) _, lf_not_mem_encode _,
    note.extensions_lf⟩

/-- The text before the blank line, whose last line has no line feed. -/
def bodyText : Str :=
  note.origin ++ '\n' :: (decimal note.treeSize.toNat ++
    '\n' :: (Base64.encode note.rootHash ++ note.extensions.flatMap ('\n' :: ·)))

/-- The signed text ends with the line feed before the blank line. -/
theorem noteBody_eq : note.noteBody = bodyText note ++ ['\n'] := by
  -- a line feed before each line and one at the end, or one after each line
  have hjoin (ls : List Str) : ls.flatMap ('\n' :: ·) ++ ['\n'] = '\n' :: terminated ls := by
    induction ls with
    | nil => rfl
    | cons l ls ih => rw [List.flatMap_cons, List.append_assoc, ih, terminated_cons]; rfl
  simp only [CheckpointNote.noteBody, CheckpointNote.bodyLines, terminated_cons, bodyText,
    List.append_assoc, List.cons_append, hjoin]

/-- The first blank line is the one written. -/
theorem isNote_render (signatureLines : List Str) :
    IsNote (note.render signatureLines) (bodyText note) (terminated signatureLines) where
  split := by
    rw [CheckpointNote.render, noteBody_eq]
    simp
  first := by
    rw [← noteBody_eq]
    exact not_infix_terminated (bodyLines_ne note) (bodyLines_lf note)

/-- A line without carriage returns is read whether or not others follow. -/
theorem lines_head {l : Str} (hne : l ≠ []) (hlf : '\n' ∉ l) (hcr : '\r' ∉ l) (more : List Str) :
    (lines (l ++ more.flatMap ('\n' :: ·)))[0]? = some l := by
  cases more with
  | nil => rw [List.flatMap_nil, List.append_nil, lines_of_not_mem hlf hne]; rfl
  | cons m more =>
    rw [List.flatMap_cons, List.cons_append, lines_append hlf, dropCr_eq_self hcr]
    rfl

/-- The note's three fields are read back. -/
theorem parseNoteBody_bodyText :
    parseNoteBody (bodyText note) = .ok ⟨note.origin, note.treeSize, note.rootHash⟩ := by
  have hroot : Base64.encode note.rootHash ≠ [] := fun h => note.rootHash_ne (encode_eq_nil h)
  unfold parseNoteBody bodyText
  -- the origin is what stands before the first line feed
  rw [splitOnce_append _ note.origin_lf, okOr_some, ok_bind]
  dsimp only
  rw [ensure_of note.origin_ne, ok_bind, lines_append (not_mem_decimal (by decide) _),
    dropCr_eq_self (cr_not_mem_decimal _)]
  -- then the decimal and the base64 line
  rw [List.getElem?_cons_zero, okOr_some, ok_bind, parseU64_decimal, okOr_some, ok_bind,
    List.getElem?_cons_succ, lines_head hroot (lf_not_mem_encode _)
      (cr_not_mem_encode _), okOr_some, ok_bind, strictBase64_encode]
  rfl

end

/-- The two halves are read separately. -/
theorem parseCheckpoint_render (note : CheckpointNote) (signatureLines : List Str) :
    parseCheckpoint (note.render signatureLines) =
      (do
        let signatures ← parseSignatureLines (terminated signatureLines)
        pure ⟨note.origin, note.treeSize, note.rootHash, note.noteBody, signatures⟩) := by
  rw [parseCheckpoint_of_isNote (isNote_render note signatureLines), parseNoteBody_bodyText,
    ok_bind, noteBody_eq]

/-! ### The signature lines -/

/-- A written signature line is read back. -/
theorem parseSignatureLine_render (s : WritableSignature) :
    parseSignatureLine (renderSignatureLine s.toCheckpointSignature) =
      .ok s.toCheckpointSignature := by
  have hlength := s.keyHint.length_eq
  have hpos := List.length_pos_of_ne_nil s.signature_ne
  have hlong : checkpointKeyHintBytes < (s.keyHint.bytes ++ s.signature).length := by
    rw [List.length_append]
    omega
  -- the name ends at the first space, the hint after four bytes
  unfold parseSignatureLine renderSignatureLine
  rw [List.append_assoc, stripPrefix_append, okOr_some, ok_bind, splitOnce_append _ s.name_space,
    okOr_some, ok_bind]
  dsimp only
  rw [strictBase64_encode, ok_bind, ensure_of hlong, ok_bind, List.take_left' hlength,
    toOctets_bytes, okOr_some, ok_bind, List.drop_left' hlength]
  rfl

/-- A written signature line holds no line feed. -/
theorem renderSignatureLine_lf (s : WritableSignature) :
    '\n' ∉ renderSignatureLine s.toCheckpointSignature := by
  simp only [renderSignatureLine, checkpointSignaturePrefix, List.mem_append, List.mem_cons, not_or]
  exact ⟨⟨⟨by decide, by decide, List.not_mem_nil⟩, s.name_lf⟩, by decide,
    lf_not_mem_encode _⟩

/-- A signature line ends in base64, so `lines` takes nothing off it. -/
theorem dropCr_renderSignatureLine (s : WritableSignature) :
    dropCr (renderSignatureLine s.toCheckpointSignature) =
      renderSignatureLine s.toCheckpointSignature := by
  apply dropCr_of
  -- a last carriage return would be a character of the base64
  intro hlast
  have hne : Base64.encode (s.keyHint.bytes ++ s.signature) ≠ [] := by
    intro h
    exact s.signature_ne (List.append_eq_nil_iff.mp (encode_eq_nil h)).2
  rw [renderSignatureLine, List.getLast?_append, List.getLast?_cons, Option.some_or,
    List.getLast?_eq_getLast_of_ne_nil hne, Option.getD_some, Option.some.injEq] at hlast
  exact cr_not_mem_encode _ (hlast ▸ List.getLast_mem hne)

/-- The lines counted are those with more on them than a line ending. -/
def countedLines (signatureLines : List Str) : ℕ :=
  (signatureLines.filter fun line => line ≠ [] ∧ line ≠ ['\r']).length

/-- The parser counts the lines that are not empty without their carriage return. -/
theorem length_filter_lines {signatureLines : List Str} (h : ∀ line ∈ signatureLines, '\n' ∉ line) :
    ((lines (terminated signatureLines)).filter (· ≠ [])).length = countedLines signatureLines := by
  rw [lines_terminated h, countedLines, List.filter_map, List.length_map]
  congr 1
  apply List.filter_congr
  intro line _
  simp [dropCr_eq_nil]

/-- The lines of a note, with its signatures on them. -/
def renderSignatureLines (signatures : List WritableSignature) : List Str :=
  signatures.map fun s => renderSignatureLine s.toCheckpointSignature

/-- Written lines come back one by one. -/
theorem lines_renderSignatureLines (signatures : List WritableSignature) :
    (lines (terminated (renderSignatureLines signatures))).filter (· ≠ []) =
      renderSignatureLines signatures := by
  have hlf : ∀ line ∈ renderSignatureLines signatures, '\n' ∉ line := by
    intro line hline
    obtain ⟨s, -, rfl⟩ := List.mem_map.mp hline
    exact renderSignatureLine_lf s
  have hdropCr : (renderSignatureLines signatures).map dropCr =
      renderSignatureLines signatures := by
    rw [renderSignatureLines, List.map_map]
    exact List.map_congr_left fun s _ => dropCr_renderSignatureLine s
  rw [lines_terminated hlf, hdropCr, List.filter_eq_self]
  intro line hline
  obtain ⟨s, -, rfl⟩ := List.mem_map.mp hline
  simp [renderSignatureLine, checkpointSignaturePrefix]

/-- The written signatures are read back in their order. -/
theorem parseSignatureLines_render {signatures : List WritableSignature} (hne : signatures ≠ [])
    (hcount : signatures.length ≤ maxCheckpointSignatures) :
    parseSignatureLines (terminated (renderSignatureLines signatures)) =
      .ok (signatures.map (·.toCheckpointSignature)) := by
  rw [parseSignatureLines_eq_ok, lines_renderSignatureLines]
  refine ⟨by rwa [renderSignatureLines, List.length_map], ?_, by simpa using hne⟩
  rw [renderSignatureLines, List.forall₂_map_left_iff, List.forall₂_map_right_iff,
    List.forall₂_same]
  intro s _
  exact parseSignatureLine_render s

/-- Too many lines are refused unread. -/
theorem parseSignatureLines_tooMany {signatureLines : List Str}
    (hlf : ∀ line ∈ signatureLines, '\n' ∉ line)
    (hcount : maxCheckpointSignatures < countedLines signatureLines) :
    parseSignatureLines (terminated signatureLines) =
      .error (.resourceLimit (.tooManyCheckpointSignatures (countedLines signatureLines)
        maxCheckpointSignatures)) := by
  unfold parseSignatureLines checkCount
  dsimp only
  rw [length_filter_lines hlf, ensure_not (not_le.mpr hcount), error_bind]

/-- **Notes are read back as written**: the origin byte for byte, the size, the root, the signature
    lines in order, and the signed text through the line feed before the blank line.  With more
    than 32 lines that are not empty without their line ending, whatever is on them, the note is
    refused with their count. -/
theorem renderedCheckpoint_spec (note : CheckpointNote) :
    (∀ signatures : List WritableSignature, 1 ≤ signatures.length → signatures.length ≤ 32 →
      parseCheckpoint (note.render (renderSignatureLines signatures)) =
        .ok ⟨note.origin, note.treeSize, note.rootHash, note.noteBody,
          signatures.map (·.toCheckpointSignature)⟩) ∧
    (∀ signatureLines : List Str, (∀ line ∈ signatureLines, '\n' ∉ line) →
      32 < countedLines signatureLines →
      parseCheckpoint (note.render signatureLines) =
        .error (.resourceLimit
          (.tooManyCheckpointSignatures (countedLines signatureLines) 32))) := by
  constructor
  · intro signatures hone hcount
    have hne : signatures ≠ [] := List.ne_nil_of_length_pos hone
    rw [parseCheckpoint_render, parseSignatureLines_render hne hcount]
    rfl
  · intro signatureLines hlf hcount
    rw [parseCheckpoint_render, parseSignatureLines_tooMany hlf hcount]
    rfl

/-- The smallest tree head there is. -/
def sampleNote : CheckpointNote where
  origin := ['o']
  treeSize := 1
  rootHash := [0]
  extensions := []
  origin_ne := by decide
  origin_lf := by decide
  rootHash_ne := by decide
  extensions_ne := by simp
  extensions_lf := by simp

/-- A carriage return alone on a line is not counted: 33 such lines are not too many, they are
    none. -/
theorem carriageReturns_not_counted :
    (∀ line ∈ List.replicate 33 ['\r'], line ≠ [] ∧ '\n' ∉ line) ∧
      32 < (List.replicate 33 ['\r']).length ∧
      parseCheckpoint (sampleNote.render (List.replicate 33 ['\r'])) =
        .error (malformed "no signature lines found") := by
  refine ⟨by decide, by decide, ?_⟩
  rw [parseCheckpoint_render]
  decide +kernel

/-! ### Spellings of the signed fields -/

/-- The `n`th line of a text as it stands, line endings of Windows not taken off. -/
def rawLine (envelope : Str) (n : ℕ) : Str := ((splitN '\n' 4 envelope)[n]?).getD []

/-- The tree size and root lines are spelled as `u64::to_string` and the base64 engine would. -/
structure CanonicalLines (treeSizeLine rootHashLine : Str) : Prop where
  unsigned : treeSizeLine.head? ≠ some '+'
  no_leading_zero : treeSizeLine.head? = some '0' → treeSizeLine = ['0']
  treeSize_cr : treeSizeLine.getLast? ≠ some '\r'
  rootHash_cr : rootHashLine.getLast? ≠ some '\r'

/-- How a log starts the signed text of these fields. -/
def canonicalHead (checkpoint : ParsedCheckpoint) : Str :=
  terminated [checkpoint.origin, decimal checkpoint.treeSize.toNat,
    Base64.encode checkpoint.rootHash]

/-- A line and the text read off it. -/
def ReadOff (raw line : Str) : Prop := raw = line ∨ raw = line ++ ['\r']

/-- A line is read as it stands unless it ends in a carriage return. -/
theorem ReadOff.eq_iff {raw line : Str} (h : ReadOff raw line) (hcr : '\r' ∉ line) :
    raw = line ↔ raw.getLast? ≠ some '\r' := by
  rcases h with rfl | rfl
  · simp only [true_iff]
    exact fun hlast => hcr (List.mem_of_getLast? hlast)
  · simp

/-- The three lines every accepted note starts with. -/
theorem exists_head_of_parseCheckpoint {envelope : Str} {checkpoint : ParsedCheckpoint}
    (h : parseCheckpoint envelope = .ok checkpoint) :
    ∃ sizeRaw rootRaw rest sizeLine block,
      checkpoint.noteBody = terminated [checkpoint.origin, sizeRaw, rootRaw] ++ rest ∧
      envelope = checkpoint.noteBody ++ '\n' :: block ∧
      '\n' ∉ checkpoint.origin ∧ '\n' ∉ sizeRaw ∧ '\n' ∉ rootRaw ∧
      ReadOff sizeRaw sizeLine ∧ parseU64 sizeLine = some checkpoint.treeSize ∧
      ReadOff rootRaw (Base64.encode checkpoint.rootHash) := by
  -- the envelope splits at the first blank line
  obtain ⟨bodyText, block, hnote⟩ := exists_isNote h
  have hparse := h
  rw [parseCheckpoint_of_isNote hnote] at hparse
  simp only [bind_eq_ok, pure_eq_ok, Except.ok.injEq] at hparse
  obtain ⟨body, hbody, signatures, -, rfl⟩ := hparse
  simp only [parseNoteBody, bind_eq_ok, okOr_eq_ok, ensure_eq_ok, Prod.exists,
    strictBase64_eq_ok, pure_eq_ok, Except.ok.injEq] at hbody
  obtain ⟨origin, rest, hsplit, _, -, sizeLine, hsize, treeSize, htreeSize, rootLine, hroot,
    rootHash, rfl, rfl⟩ := hbody
  -- the first two of the lines after the origin are the size and the root
  obtain ⟨rfl, horigin⟩ := splitOnce_eq_some.mp hsplit
  obtain ⟨ls, hlines⟩ : ∃ ls, lines rest = sizeLine :: Base64.encode rootHash :: ls := by
    obtain ⟨more, hmore⟩ := List.head?_eq_some_iff.mp (List.head?_eq_getElem?.trans hsize)
    rw [hmore, List.getElem?_cons_succ] at hroot
    obtain ⟨ls, rfl⟩ := List.head?_eq_some_iff.mp (List.head?_eq_getElem?.trans hroot)
    exact ⟨ls, hmore⟩
  -- both lines as they stand in the text, where the next line feed ends them
  obtain ⟨sizeRaw, afterSize, hafterSize, hsizeLf, hsizeRead, hnext⟩ :=
    exists_of_lines_eq_cons hlines
  obtain ⟨rest', rfl, hlines'⟩ := hnext (List.cons_ne_nil _ _)
  obtain ⟨rootRaw, afterRoot, hafterRoot, hrootLf, hrootRead, -⟩ := exists_of_lines_eq_cons hlines'
  refine ⟨sizeRaw, rootRaw, afterRoot, sizeLine, block, ?_, ?_, horigin, hsizeLf, hrootLf,
    hsizeRead, htreeSize, hrootRead⟩
  · rw [List.append_assoc, List.cons_append, hafterSize, hafterRoot]
    simp
  · rw [hnote.split]
    simp

/-- The raw lines of a text that starts with three lines. -/
theorem rawLine_terminated {a b c : Str} (ha : '\n' ∉ a) (hb : '\n' ∉ b) (hc : '\n' ∉ c)
    (rest : Str) :
    rawLine (terminated [a, b, c] ++ rest) 1 = b ∧
      rawLine (terminated [a, b, c] ++ rest) 2 = c := by
  simp only [rawLine, terminated_cons, terminated_nil, List.append_assoc, List.cons_append,
    List.nil_append, splitN, splitOnce_append _ ha, splitOnce_append _ hb, splitOnce_append _ hc]
  exact ⟨rfl, rfl⟩

/-- Two texts that start with three lines each start alike when the lines are the same. -/
theorem terminated_prefix_iff {a b c b' c' rest : Str} (hb : '\n' ∉ b) (hb' : '\n' ∉ b')
    (hc : '\n' ∉ c) (hc' : '\n' ∉ c') :
    terminated [a, b, c] <+: terminated [a, b', c'] ++ rest ↔ b' = b ∧ c' = c := by
  constructor
  · intro h
    obtain ⟨more, hmore⟩ := h
    simp only [terminated_cons, terminated_nil, List.append_assoc, List.cons_append,
      List.nil_append] at hmore
    -- past the common first line, each next line ends at its line feed
    have hsize := List.cons.inj (List.append_cancel_left hmore)
    have hsplit := congrArg (splitOnce '\n') hsize.2
    rw [splitOnce_append _ hb, splitOnce_append _ hb'] at hsplit
    obtain ⟨rfl, hroot⟩ := Prod.mk.inj (Option.some.inj hsplit)
    have hsplit := congrArg (splitOnce '\n') hroot
    rw [splitOnce_append _ hc, splitOnce_append _ hc'] at hsplit
    obtain ⟨rfl, -⟩ := Prod.mk.inj (Option.some.inj hsplit)
    exact ⟨rfl, rfl⟩
  · intro h
    obtain ⟨rfl, rfl⟩ := h
    exact List.prefix_append _ _

/-- A number is spelled canonically without a plus, a leading zero or a carriage return. -/
theorem ReadOff.eq_decimal_iff {raw line : Str} {n : UInt64} (h : ReadOff raw line)
    (hparse : parseU64 line = some n) :
    raw = decimal n.toNat ↔
      raw.head? ≠ some '+' ∧ (raw.head? = some '0' → raw = ['0']) ∧ raw.getLast? ≠ some '\r' := by
  constructor
  · intro hraw
    obtain ⟨hsign, hzero⟩ := (Wire.eq_decimal_iff (parseU64_decimal n)).mp rfl
    rw [hraw]
    exact ⟨hsign, hzero, fun hlast => cr_not_mem_decimal _ (List.mem_of_getLast? hlast)⟩
  · intro hraw
    obtain ⟨hsign, hzero, hcr⟩ := hraw
    -- without the carriage return, the line is the text that was parsed
    have hline : raw = line := by
      apply h.resolve_right
      intro hline
      rw [hline] at hcr
      exact hcr List.getLast?_concat
    rw [← hline] at hparse
    exact (Wire.eq_decimal_iff hparse).mpr ⟨hsign, hzero⟩

/-- **Which accepted notes are spelled canonically.**  The signed text of an accepted envelope
    starts with its origin, the decimal tree size and the base64 root, a line each, exactly when the
    second line of the envelope has no `+` or superfluous zero and neither it nor the third ends in
    a carriage return. -/
theorem canonical_iff {envelope : Str} {checkpoint : ParsedCheckpoint}
    (h : parseCheckpoint envelope = .ok checkpoint) :
    canonicalHead checkpoint <+: checkpoint.noteBody ↔
      CanonicalLines (rawLine envelope 1) (rawLine envelope 2) := by
  obtain ⟨sizeRaw, rootRaw, rest, sizeLine, block, hbody, henvelope, horigin, hsizeLf, hrootLf,
    hsizeRead, htreeSize, hrootRead⟩ := exists_head_of_parseCheckpoint h
  -- the raw lines of the envelope are those of the signed text
  rw [hbody, List.append_assoc] at henvelope
  obtain ⟨hone, htwo⟩ := rawLine_terminated horigin hsizeLf hrootLf (rest ++ '\n' :: block)
  rw [henvelope, hone, htwo, canonicalHead, hbody,
    terminated_prefix_iff (not_mem_decimal (by decide) _) hsizeLf
      (lf_not_mem_encode _) hrootLf,
    hrootRead.eq_iff (cr_not_mem_encode _), hsizeRead.eq_decimal_iff htreeSize]
  constructor
  · intro hcanonical
    obtain ⟨⟨hsign, hzero, hsizeCr⟩, hrootCr⟩ := hcanonical
    exact ⟨hsign, hzero, hsizeCr, hrootCr⟩
  · intro hcanonical
    exact ⟨⟨hcanonical.unsigned, hcanonical.no_leading_zero, hcanonical.treeSize_cr⟩,
      hcanonical.rootHash_cr⟩

/-- A note whose second line is `+01` and ends in a carriage return. -/
def signedSizeNote : Str :=
  terminated ["o".toList, "+01\r".toList, "AA==".toList, [], "— n AAAAAAA=".toList]

/-- The checkpoint that the note is parsed to. -/
def signedSizeCheckpoint : ParsedCheckpoint where
  origin := ['o']
  treeSize := 1
  rootHash := [0]
  noteBody := "o\n+01\r\nAA==\n".toList
  signatures := [⟨['n'], .zero 4, [0]⟩]

/-- The parser takes `+01` and a carriage return for the size 1. -/
theorem parseCheckpoint_signedSizeNote :
    parseCheckpoint signedSizeNote = .ok signedSizeCheckpoint := by
  decide +kernel

/-- The note is accepted, and its signed text does not start as a log would write it. -/
theorem signedSizeNote_not_canonical :
    parseCheckpoint signedSizeNote = .ok signedSizeCheckpoint ∧
      ¬ canonicalHead signedSizeCheckpoint <+: signedSizeCheckpoint.noteBody := by
  refine ⟨parseCheckpoint_signedSizeNote, ?_⟩
  decide +kernel

/-- The signed text's head is not the canonical one, as its second line says. -/
theorem canonical_iff_signedSizeNote :
    canonicalHead signedSizeCheckpoint <+: signedSizeCheckpoint.noteBody ↔
      CanonicalLines (rawLine signedSizeNote 1) (rawLine signedSizeNote 2) :=
  canonical_iff parseCheckpoint_signedSizeNote

end AttestationVerify
