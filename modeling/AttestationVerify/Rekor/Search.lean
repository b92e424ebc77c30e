import AttestationVerify.Rekor.Checkpoint
import AttestationVerify.Wire.Trace

namespace AttestationVerify

open Wire

/-!
# The search for a checkpoint's signature

`verify_checkpoint` goes over the signature lines twice and stops at the first that verifies.  Here
the verifications it makes are recorded, with any predicate in the place of the log's key.

* `verifyCheckpointTraced` — `verifyCheckpoint`, with a record of its calls;
* `attempts` — the lines in the order they are tried in: each line with the hint once, no other;
* `verifyCheckpoint_search` — the verdict is that of a search in any order, and the calls are those
  a search through `attempts` makes.
-/

/-- `verifies` stands for `log_key.verify_der`, on a message and a signature. -/
def verifyCheckpointTraced (X : Externals) (verifies : Bytes × Bytes → Bool) (envelope : Str)
    (proofTreeSize : UInt64) (proofRootHash : Bytes) (log : TransparencyLog) :
    ExceptT Error (Traced (Bytes × Bytes)) ParsedCheckpoint := do
  let checkpoint ← liftM (parseCheckpoint envelope)
  liftM (ensure (checkpoint.treeSize = proofTreeSize)
    (Error.transparency .checkpointTreeSizeMismatch))
  liftM (ensure (checkpoint.rootHash = proofRootHash)
    (Error.transparency .checkpointRootHashMismatch))
  let noteBodyBytes := utf8 checkpoint.noteBody
  let keyHint ← liftM (okOr (checkpointKeyHint X log)
    (Error.transparency .checkpointSignatureInvalid))
  let candidates := checkpoint.signatures.filter (·.keyHint = keyHint)
  let verify (signature : CheckpointSignature) : Traced (Bytes × Bytes) Bool :=
    .call verifies (noteBodyBytes, signature.signature)
  -- the second pass is made only when the first finds nothing
  let verified ← ExceptT.lift (
    (candidates.filter fun signature =>
      checkpointKeyNameMatches log signature.name).anyM verify <||>
    (candidates.filter fun signature =>
      ¬ checkpointKeyNameMatches log signature.name).anyM verify)
  liftM (ensure verified (Error.transparency .checkpointSignatureInvalid))
  pure checkpoint

/-- The lines with the hint: those whose name matches the log, then the others. -/
def attempts (log : TransparencyLog) (keyHint : Octets checkpointKeyHintBytes)
    (checkpoint : ParsedCheckpoint) : List CheckpointSignature :=
  let candidates := checkpoint.signatures.filter (·.keyHint = keyHint)
  (candidates.filter fun signature => checkpointKeyNameMatches log signature.name) ++
    candidates.filter fun signature => ¬ checkpointKeyNameMatches log signature.name

/-- The calls made for some lines: the note's body with each line's signature. -/
def calls (checkpoint : ParsedCheckpoint) (signatures : List CheckpointSignature) :
    List (Bytes × Bytes) :=
  signatures.map fun signature => (utf8 checkpoint.noteBody, signature.signature)

/-- What is checked before any signature is. -/
structure HeadAccepted (X : Externals) (envelope : Str) (treeSize : UInt64) (rootHash : Bytes)
    (log : TransparencyLog) (checkpoint : ParsedCheckpoint)
    (keyHint : Octets checkpointKeyHintBytes) : Prop where
  parsed : parseCheckpoint envelope = .ok checkpoint
  treeSize_eq : checkpoint.treeSize = treeSize
  rootHash_eq : checkpoint.rootHash = rootHash
  hint : checkpointKeyHint X log = some keyHint

section

variable {X : Externals} {verifies : Bytes × Bytes → Bool} {envelope : Str} {treeSize : UInt64}
  {rootHash : Bytes} {log : TransparencyLog} {checkpoint : ParsedCheckpoint}
  {keyHint : Octets checkpointKeyHintBytes}

/-- No line is left out, and none is there twice. -/
theorem attempts_perm (log : TransparencyLog) (keyHint : Octets checkpointKeyHintBytes)
    (checkpoint : ParsedCheckpoint) : (attempts log keyHint checkpoint).Perm
      (checkpoint.signatures.filter (·.keyHint = keyHint)) := by
  unfold attempts
  simp only [decide_not]
  exact List.filter_append_perm _ _

/-- There are no more attempts than signature lines. -/
theorem length_attempts_le (h : parseCheckpoint envelope = .ok checkpoint) :
    (attempts log keyHint checkpoint).length ≤ maxCheckpointSignatures :=
  calc (attempts log keyHint checkpoint).length
      = (checkpoint.signatures.filter (·.keyHint = keyHint)).length :=
        (attempts_perm log keyHint checkpoint).length_eq
    _ ≤ checkpoint.signatures.length := List.length_filter_le _ _
    _ ≤ maxCheckpointSignatures := length_signatures_le h

/-- Some attempt succeeds if some line with the hint verifies. -/
theorem any_attempts : (calls checkpoint (attempts log keyHint checkpoint)).any verifies = true ↔
    ∃ signature ∈ checkpoint.signatures, signature.keyHint = keyHint ∧
      verifies (utf8 checkpoint.noteBody, signature.signature) = true := by
  simp only [calls, List.any_map, List.any_eq_true, (attempts_perm log keyHint checkpoint).mem_iff,
    List.mem_filter, decide_eq_true_eq, Function.comp_apply, and_assoc]

/-- After a search, its outcome is only looked at. -/
theorem run_lift_bind_ensure (search : Traced (Bytes × Bytes) Bool) (e : Error) :
    (do
      let verified ← ExceptT.lift search
      liftM (ensure verified e)
      pure checkpoint : ExceptT Error (Traced (Bytes × Bytes)) ParsedCheckpoint).run =
      ⟨ensure search.value e >>= fun _ => pure checkpoint, search.calls⟩ := by
  cases search with
  | mk value calls => cases value <;> exact congrArg (Traced.mk _) (List.append_nil calls)

/-- Past the head, the run is the search. -/
theorem run_verifyCheckpointTraced_of
    (h : HeadAccepted X envelope treeSize rootHash log checkpoint keyHint) :
    (verifyCheckpointTraced X verifies envelope treeSize rootHash log).run =
      ⟨ensure ((calls checkpoint (attempts log keyHint checkpoint)).any verifies)
          (.transparency .checkpointSignatureInvalid) >>= fun _ => pure checkpoint,
        Traced.tried verifies (calls checkpoint (attempts log keyHint checkpoint))⟩ := by
  unfold verifyCheckpointTraced
  rw [h.parsed, Traced.liftM_ok_bind, ensure_of h.treeSize_eq, Traced.liftM_ok_bind,
    ensure_of h.rootHash_eq, Traced.liftM_ok_bind, h.hint, okOr_some, Traced.liftM_ok_bind,
    run_lift_bind_ensure, Traced.orM_anyM_call verifies fun signature : CheckpointSignature =>
      (utf8 checkpoint.noteBody, signature.signature)]
  rfl

/-- Without the head, nothing is verified. -/
theorem run_verifyCheckpointTraced_of_not (verifies : Bytes × Bytes → Bool)
    (h : ¬ ∃ checkpoint keyHint, HeadAccepted X envelope treeSize rootHash log checkpoint keyHint) :
    ∃ e, (verifyCheckpointTraced X verifies envelope treeSize rootHash log).run =
      ⟨.error e, []⟩ := by
  unfold verifyCheckpointTraced
  -- the run ends at whichever part of the head fails first
  cases hparse : parseCheckpoint envelope with
  -- the envelope does not parse
  | error e => exact ⟨e, rfl⟩
  | ok checkpoint =>
    rw [Traced.liftM_ok_bind]
    by_cases hsize : checkpoint.treeSize = treeSize
    · rw [ensure_of hsize, Traced.liftM_ok_bind]
      by_cases hroot : checkpoint.rootHash = rootHash
      · rw [ensure_of hroot, Traced.liftM_ok_bind]
        cases hhint : checkpointKeyHint X log with
        -- the log has no key hint
        | none => exact ⟨_, rfl⟩
        | some keyHint => exact absurd ⟨checkpoint, keyHint, hparse, hsize, hroot, hhint⟩ h
      · rw [ensure_not hroot, Traced.liftM_error_bind]
        exact ⟨_, rfl⟩
    · rw [ensure_not hsize, Traced.liftM_error_bind]
      exact ⟨_, rfl⟩

/-- With the log's key for the predicate, the values are those of `verifyCheckpoint`. -/
theorem value_verifyCheckpointTraced {logKey : EcdsaVerifyingKey} :
    (verifyCheckpointTraced X (fun call => logKey.verifyDer X call.1 call.2) envelope treeSize
      rootHash log).run.value = verifyCheckpoint X envelope treeSize rootHash log logKey := by
  unfold verifyCheckpointTraced verifyCheckpoint
  simp only [Traced.run_value_bind, Traced.run_liftM, Traced.run_lift, Traced.orM_anyM_call,
    ok_bind, List.any_map, List.any_append, List.map_append]
  rfl

/-- The checkpoint is accepted if its head is and some line with the hint verifies. -/
theorem value_verifyCheckpointTraced_eq_ok :
    (verifyCheckpointTraced X verifies envelope treeSize rootHash log).run.value = .ok checkpoint ↔
      ∃ keyHint, HeadAccepted X envelope treeSize rootHash log checkpoint keyHint ∧
        ∃ signature ∈ checkpoint.signatures, signature.keyHint = keyHint ∧
          verifies (utf8 checkpoint.noteBody, signature.signature) = true := by
  constructor
  · intro h
    by_cases hhead : ∃ checkpoint keyHint,
        HeadAccepted X envelope treeSize rootHash log checkpoint keyHint
    · obtain ⟨c, keyHint, hhead⟩ := hhead
      rw [run_verifyCheckpointTraced_of hhead] at h
      simp only [bind_eq_ok, ensure_eq_ok, pure_eq_ok, Except.ok.injEq] at h
      obtain ⟨_, hany, rfl⟩ := h
      exact ⟨keyHint, hhead, any_attempts.mp hany⟩
    · obtain ⟨e, he⟩ := run_verifyCheckpointTraced_of_not verifies hhead
      rw [he] at h
      cases h
  · intro h
    obtain ⟨keyHint, hhead, hany⟩ := h
    rw [run_verifyCheckpointTraced_of hhead, ensure_of (any_attempts.mpr hany)]
    rfl

end

/-- **The two passes are one search.**  With the log's key the traced run is `verify_checkpoint`.
    For every predicate, the run succeeds exactly when the head is accepted and some line with the
    log's hint verifies, whatever its name; the calls made are those through the first success of a
    search over the lines with the hint, matching names first, and at most 32. -/
theorem verifyCheckpoint_search (X : Externals) (envelope : Str) (treeSize : UInt64)
    (rootHash : Bytes) (log : TransparencyLog) :
    (∀ logKey : EcdsaVerifyingKey,
      (verifyCheckpointTraced X (fun call => logKey.verifyDer X call.1 call.2) envelope treeSize
        rootHash log).run.value = verifyCheckpoint X envelope treeSize rootHash log logKey) ∧
    ∀ verifies : Bytes × Bytes → Bool,
      (∀ checkpoint,
        (verifyCheckpointTraced X verifies envelope treeSize rootHash log).run.value =
            .ok checkpoint ↔
          ∃ keyHint, HeadAccepted X envelope treeSize rootHash log checkpoint keyHint ∧
            ∃ signature ∈ checkpoint.signatures, signature.keyHint = keyHint ∧
              verifies (utf8 checkpoint.noteBody, signature.signature) = true) ∧
      (∀ checkpoint keyHint, HeadAccepted X envelope treeSize rootHash log checkpoint keyHint →
        (attempts log keyHint checkpoint).Perm
            (checkpoint.signatures.filter (·.keyHint = keyHint)) ∧
          (verifyCheckpointTraced X verifies envelope treeSize rootHash log).run.calls =
            Traced.tried verifies (calls checkpoint (attempts log keyHint checkpoint))) ∧
      ((¬ ∃ checkpoint keyHint,
          HeadAccepted X envelope treeSize rootHash log checkpoint keyHint) →
        (verifyCheckpointTraced X verifies envelope treeSize rootHash log).run.calls = []) ∧
      (verifyCheckpointTraced X verifies envelope treeSize rootHash log).run.calls.length ≤ 32 := by
  refine ⟨fun _ => value_verifyCheckpointTraced, fun verifies =>
    ⟨fun _ => value_verifyCheckpointTraced_eq_ok, ?_, ?_, ?_⟩⟩
  · intro checkpoint keyHint h
    rw [run_verifyCheckpointTraced_of h]
    exact ⟨attempts_perm log keyHint checkpoint, rfl⟩
  · intro h
    obtain ⟨e, he⟩ := run_verifyCheckpointTraced_of_not verifies h
    rw [he]
  · by_cases h : ∃ checkpoint keyHint,
        HeadAccepted X envelope treeSize rootHash log checkpoint keyHint
    · obtain ⟨checkpoint, keyHint, h⟩ := h
      rw [run_verifyCheckpointTraced_of h]
      apply (Traced.length_tried_le _ _).trans
      rw [calls, List.length_map]
      exact length_attempts_le h.parsed
    · obtain ⟨e, he⟩ := run_verifyCheckpointTraced_of_not verifies h
      rw [he]
      exact Nat.zero_le 32

end AttestationVerify
