import AttestationVerify.Verifier
import AttestationVerify.Wire.Builder

namespace AttestationVerify

open Wire Wire.Builder

/-!
# Origin policies, as they are built

`CheckpointOriginPolicyBuilder` appends a binding as it is and merges a single origin into the first
binding of its key.  What the policy allows is the union of what the calls add, and the verifier's
builder looks at every binding of it.

* `BuilderCall`, `runCalls` — the calls of the builder, one after the other;
* `Grants` — what bindings allow; `accumulates_applyCall`: what a call adds to it;
* `SetterCall`, `verifierBuilder_build_eq_ok` — the verifier's own builder;
* `originPolicy_spec` — both together.
-/

/-! ### Bindings -/

/-- Some binding of the key has the origin. -/
def Grants (bindings : List CheckpointOriginBinding) (keyId : Octets 32) (origin : Str) : Prop :=
  ∃ binding ∈ bindings, binding.keyId = keyId ∧ origin ∈ binding.origins

/-- What the builder shows of itself: the pairs of key and origin. -/
def CheckpointOriginPolicyBuilder.Shows (builder : CheckpointOriginPolicyBuilder)
    (pair : Octets 32 × Str) : Prop := Grants builder.bindings pair.1 pair.2

section Bindings

variable {keyId keyId' : Octets 32} {origin' : Str} {origin : {s : Str // IsCheckpointOrigin s}}

open CheckpointOriginPolicyBuilder

/-- Adding an origin keeps the key. -/
theorem keyId_allowIn (binding : CheckpointOriginBinding) :
    (allowIn binding origin).keyId = binding.keyId := by
  unfold allowIn
  split <;> rfl

/-- The origins are those before and the one added. -/
theorem mem_allowIn {binding : CheckpointOriginBinding} :
    origin' ∈ (allowIn binding origin).origins ↔ origin' ∈ binding.origins ∨ origin' = origin := by
  unfold allowIn
  split
  · rename_i hmem
    -- it is there already
    refine (or_iff_left_of_imp ?_).symm
    rintro rfl
    exact hmem
  · rw [List.mem_append, List.mem_singleton]

/-- A pair is granted by the first binding or by a later one. -/
theorem grants_cons {binding : CheckpointOriginBinding} {bindings : List CheckpointOriginBinding} :
    Grants (binding :: bindings) keyId' origin' ↔
      (binding.keyId = keyId' ∧ origin' ∈ binding.origins) ∨ Grants bindings keyId' origin' := by
  rw [Grants, List.exists_mem_cons_iff]
  rfl

/-- Two lists of bindings grant what either does. -/
theorem grants_append {bindings bindings' : List CheckpointOriginBinding} :
    Grants (bindings ++ bindings') keyId' origin' ↔
      Grants bindings keyId' origin' ∨ Grants bindings' keyId' origin' := by
  simp only [Grants, List.mem_append, or_and_right, exists_or]

/-- Merging adds the one pair, whichever binding takes it. -/
theorem grants_allowFirst {bindings : List CheckpointOriginBinding} :
    Grants (allowFirst keyId origin bindings) keyId' origin' ↔
      Grants bindings keyId' origin' ∨ (keyId' = keyId ∧ origin' = origin) := by
  induction bindings with
  | nil => simp [allowFirst, Grants, eq_comm]
  | cons binding bindings ih =>
    unfold allowFirst
    split
    · rename_i hkey
      -- the first binding of the key takes it
      rw [grants_cons, grants_cons, keyId_allowIn, mem_allowIn, hkey, and_or_left, or_right_comm,
        eq_comm (a := keyId) (b := keyId')]
    · rw [grants_cons, ih, grants_cons, or_assoc]

end Bindings

/-- Bindings allow nothing when there are none. -/
theorem eq_nil_iff_grants {bindings : List CheckpointOriginBinding} :
    bindings = [] ↔ ∀ keyId origin, ¬ Grants bindings keyId origin := by
  constructor
  · rintro rfl keyId origin ⟨binding, hmem, -⟩
    cases hmem
  · intro h
    rcases bindings with _ | ⟨binding, bindings⟩
    · rfl
    · obtain ⟨origin, horigin⟩ := List.exists_mem_of_ne_nil _ binding.origins_ne
      exact absurd ⟨binding, List.mem_cons_self, rfl, horigin⟩ (h binding.keyId origin)

/-! ### The calls -/

/-- The calls of the policy builder. -/
inductive BuilderCall
  | binding (added : CheckpointOriginBinding)
  | allowOrigin (log : TransparencyLog) (origin : Str)
  | allowOrigins (log : TransparencyLog) (origins : List Str)

/-- What a call does to the builder. -/
def applyCall (X : Externals) (builder : CheckpointOriginPolicyBuilder) :
    BuilderCall → Except Error CheckpointOriginPolicyBuilder
  | .binding added => .ok (builder.binding added)
  | .allowOrigin log origin => builder.allowOrigin X log origin
  | .allowOrigins log origins => builder.allowOrigins X log origins

/-- The calls on a fresh builder, up to the first that fails. -/
def runCalls (X : Externals) (calls : List BuilderCall) :
    Except Error CheckpointOriginPolicyBuilder :=
  calls.foldlM (applyCall X) ⟨[]⟩

/-- The pairs a call adds, whatever is there already. -/
def BuilderCall.Adds (X : Externals) : BuilderCall → Octets 32 × Str → Prop
  | .binding added, pair => pair.1 = added.keyId ∧ pair.2 ∈ added.origins
  | .allowOrigin log origin, pair => pair.1 = checkpointLogKeyId X log ∧ pair.2 = origin
  | .allowOrigins log origins, pair => pair.1 = checkpointLogKeyId X log ∧ pair.2 ∈ origins

/-- What a call asks for. -/
def BuilderCall.Valid : BuilderCall → Prop
  | .binding _ => True
  | .allowOrigin _ origin => IsCheckpointOrigin origin
  | .allowOrigins _ origins => ∀ origin ∈ origins, IsCheckpointOrigin origin

section Calls

variable {X : Externals}

/-- An origin that is validated is kept as it is. -/
theorem validateCheckpointOrigin_eq_ok {origin : Str} {valid : {s : Str // IsCheckpointOrigin s}} :
    validateCheckpointOrigin origin = .ok valid ↔ origin = valid := by
  unfold validateCheckpointOrigin
  constructor
  · intro h
    split at h
    · cases h
    · split at h
      · cases h
      · exact congrArg Subtype.val (Except.ok.inj h)
  · rintro rfl
    obtain ⟨hne, hline⟩ := valid.property
    rw [dif_neg hne, dif_neg (not_or.mpr hline)]

/-- `allow_origin` adds the one pair. -/
theorem accumulates_allowOrigin (log : TransparencyLog) :
    Accumulates (fun builder origin => builder.allowOrigin X log origin)
      CheckpointOriginPolicyBuilder.Shows
      fun origin pair => pair.1 = checkpointLogKeyId X log ∧ pair.2 = origin := by
  intro builder origin builder' h pair
  simp only [CheckpointOriginPolicyBuilder.allowOrigin, bind_eq_ok, pure_eq_ok, Except.ok.injEq,
    validateCheckpointOrigin_eq_ok] at h
  obtain ⟨valid, rfl, rfl⟩ := h
  exact grants_allowFirst

/-- `allow_origin` succeeds exactly on what can be an origin. -/
theorem allowOrigin_succeeds_iff (log : TransparencyLog) (builder : CheckpointOriginPolicyBuilder)
    (origin : Str) :
    (∃ builder', builder.allowOrigin X log origin = .ok builder') ↔ IsCheckpointOrigin origin := by
  simp only [CheckpointOriginPolicyBuilder.allowOrigin, bind_eq_ok, pure_eq_ok, Except.ok.injEq,
    validateCheckpointOrigin_eq_ok]
  constructor
  · rintro ⟨_, valid, rfl, -⟩
    exact valid.property
  · intro h
    exact ⟨_, ⟨origin, h⟩, rfl, rfl⟩

/-- A call succeeds exactly when its origins can be. -/
theorem applyCall_succeeds_iff (builder : CheckpointOriginPolicyBuilder) (call : BuilderCall) :
    (∃ builder', applyCall X builder call = .ok builder') ↔ call.Valid := by
  cases call with
  | binding added => exact iff_of_true ⟨_, rfl⟩ trivial
  | allowOrigin log origin => exact allowOrigin_succeeds_iff log builder origin
  | allowOrigins log origins =>
    exact foldlM_succeeds_iff (allowOrigin_succeeds_iff log) builder origins

/-- Every call adds what it names, and loses nothing. -/
theorem accumulates_applyCall :
    Accumulates (applyCall X) CheckpointOriginPolicyBuilder.Shows (BuilderCall.Adds X) := by
  intro builder call builder' h pair
  cases call with
  | binding added =>
    obtain rfl := Except.ok.inj h
    rw [CheckpointOriginPolicyBuilder.Shows, CheckpointOriginPolicyBuilder.Shows,
      CheckpointOriginPolicyBuilder.binding, grants_append, grants_cons, BuilderCall.Adds,
      eq_comm (a := pair.1)]
    simp [Grants]
  | allowOrigin log origin => exact accumulates_allowOrigin log builder origin builder' h pair
  | allowOrigins log origins =>
    rw [(accumulates_allowOrigin log).run builder origins builder' h pair]
    simp only [BuilderCall.Adds]
    refine or_congr_right ⟨?_, ?_⟩
    · rintro ⟨origin, horigin, hkey, heq⟩
      exact ⟨hkey, heq ▸ horigin⟩
    · rintro ⟨hkey, horigin⟩
      exact ⟨pair.2, horigin, hkey, rfl⟩

/-- **What a policy allows is what was added.** -/
theorem shows_runCalls {calls : List BuilderCall} {builder : CheckpointOriginPolicyBuilder}
    (h : runCalls X calls = .ok builder) (pair : Octets 32 × Str) :
    builder.Shows pair ↔ ∃ call ∈ calls, call.Adds X pair := by
  have hempty : ¬ CheckpointOriginPolicyBuilder.Shows ⟨[]⟩ pair :=
    eq_nil_iff_grants.mp rfl pair.1 pair.2
  rw [accumulates_applyCall.run ⟨[]⟩ calls builder h pair, or_iff_right hempty]

/-- Only an empty builder is refused. -/
theorem build_eq_error {builder : CheckpointOriginPolicyBuilder} :
    (∃ e, builder.build = .error e) ↔ builder.bindings = [] := by
  unfold CheckpointOriginPolicyBuilder.build CheckpointOriginPolicy.new
  split
  · rename_i hempty
    exact iff_of_true ⟨_, rfl⟩ hempty
  · rename_i hne
    exact iff_of_false (fun h => nomatch h.choose_spec) hne

/-- The policy has the builder's bindings. -/
theorem build_eq_ok {builder : CheckpointOriginPolicyBuilder} {policy : CheckpointOriginPolicy} :
    builder.build = .ok policy ↔ policy.bindings = builder.bindings := by
  unfold CheckpointOriginPolicyBuilder.build CheckpointOriginPolicy.new
  constructor
  · intro h
    split at h
    · cases h
    · rw [← Except.ok.inj h]
  · intro h
    obtain ⟨bindings, hne⟩ := policy
    subst h
    rw [dif_neg hne]

end Calls

/-! ### The verifier's builder -/

/-- The calls of the verifier builder. -/
inductive SetterCall
  | trustStore (value : TrustStore)
  | githubPolicy (value : GithubPolicy)
  | checkpointOriginPolicy (value : CheckpointOriginPolicy)

/-- A setter overwrites what was set before. -/
def applySetter (builder : VerifierBuilder) : SetterCall → VerifierBuilder
  | .trustStore value => builder.setTrustStore value
  | .githubPolicy value => builder.setGithubPolicy value
  | .checkpointOriginPolicy value => builder.setCheckpointOriginPolicy value

/-- The setters on a fresh builder. -/
def runSetters (calls : List SetterCall) : VerifierBuilder :=
  calls.foldl applySetter ⟨none, none, none⟩

/-- The trust store a call sets. -/
def SetterCall.trustStore? : SetterCall → Option TrustStore
  | .trustStore value => some value
  | _ => none

/-- The identity policy a call sets. -/
def SetterCall.githubPolicy? : SetterCall → Option GithubPolicy
  | .githubPolicy value => some value
  | _ => none

/-- The origin policy a call sets. -/
def SetterCall.checkpointOriginPolicy? : SetterCall → Option CheckpointOriginPolicy
  | .checkpointOriginPolicy value => some value
  | _ => none

/-- The value of the last call that has one. -/
def lastOf {α : Type} (value? : SetterCall → Option α) (calls : List SetterCall) : Option α :=
  calls.reverse.findSome? value?

/-- After all calls each part is the last one set. -/
theorem runSetters_eq (calls : List SetterCall) :
    runSetters calls = ⟨lastOf SetterCall.trustStore? calls, lastOf SetterCall.githubPolicy? calls,
      lastOf SetterCall.checkpointOriginPolicy? calls⟩ := by
  have htrust : Sets applySetter VerifierBuilder.trustStore SetterCall.trustStore? := by
    intro builder call
    cases call <;> rfl
  have hgithub : Sets applySetter VerifierBuilder.githubPolicy SetterCall.githubPolicy? := by
    intro builder call
    cases call <;> rfl
  have horigins : Sets applySetter VerifierBuilder.checkpointOriginPolicy
      SetterCall.checkpointOriginPolicy? := by
    intro builder call
    cases call <;> rfl
  have hrun := And.intro (htrust.run ⟨none, none, none⟩ calls)
    (And.intro (hgithub.run ⟨none, none, none⟩ calls) (horigins.run ⟨none, none, none⟩ calls))
  simp only [Option.or_none] at hrun
  obtain ⟨htrust, hgithub, horigins⟩ := hrun
  rw [lastOf, lastOf, lastOf, ← htrust, ← hgithub, ← horigins]
  rfl

/-- A verifier is built exactly of three parts that were set. -/
theorem verifierBuilder_build_eq_ok {X : Externals} {builder : VerifierBuilder}
    {verifier : Verifier X} :
    builder.build X = .ok verifier ↔ builder.trustStore = some verifier.trustStore ∧
      builder.githubPolicy = some verifier.githubPolicy ∧
      builder.checkpointOriginPolicy = some verifier.checkpointOriginPolicy := by
  unfold VerifierBuilder.build
  simp only [bind_eq_ok, okOr_eq_ok]
  constructor
  · rintro ⟨trustStore, htrust, githubPolicy, hgithub, checkpointOriginPolicy, horigins, h⟩
    split at h
    · cases h
    · split at h
      · obtain rfl := Except.ok.inj h
        exact ⟨htrust, hgithub, horigins⟩
      · cases h
  · rintro ⟨htrust, hgithub, horigins⟩
    refine ⟨_, htrust, _, hgithub, _, horigins, ?_⟩
    -- the verifier carries what the two checks ask
    split
    · rename_i e hpins
      rw [rejectSignerIdPins, ensure_of verifier.signer_unpinned] at hpins
      cases hpins
    · rw [dif_pos verifier.keys_known]
      rfl

/-! ### Checkpoints -/

/-- The origin of a checkpoint is the first line that is signed, as it stands. -/
theorem noteBody_eq_origin {envelope : Str} {checkpoint : ParsedCheckpoint}
    (h : parseCheckpoint envelope = .ok checkpoint) :
    ∃ rest, checkpoint.noteBody = checkpoint.origin ++ '\n' :: rest := by
  obtain ⟨bodyText, hnote, hbody⟩ := parseNoteBody_of_parseCheckpoint h
  simp only [parseNoteBody, bind_eq_ok, okOr_eq_ok, Prod.exists, splitOnce_eq_some] at hbody
  obtain ⟨origin, rest, ⟨rfl, -⟩, _, -, treeSizeLine, -, treeSize, -, rootHashLine, -, rootHash, -,
    heq⟩ := hbody
  obtain rfl : origin = checkpoint.origin := congrArg NoteBody.origin (Except.ok.inj heq)
  exact ⟨rest ++ ['\n'], by rw [hnote, List.append_assoc, List.cons_append]⟩

/-- No stored origin has a CR in it. -/
theorem not_allows_of_cr {origin : Str} (h : '\r' ∈ origin) (policy : CheckpointOriginPolicy)
    (keyId : Octets 32) : policy.allows keyId origin = false := by
  rw [Bool.eq_false_iff, ne_eq, CheckpointOriginPolicy.allows_iff]
  rintro ⟨binding, -, -, horigin⟩
  exact (binding.origins_valid origin horigin).2.1 h

/-- **Origin policies and verifiers.**  A policy allows exactly the pairs that the calls of its
    builder add, every origin in it is on one line, and no verifier comes out of its builder with a
    binding of an unknown key or with a pin on its signer's ids. -/
theorem originPolicy_spec (X : Externals) :
    (∀ calls, (∃ builder, runCalls X calls = .ok builder) ↔ ∀ call ∈ calls, call.Valid) ∧
    (∀ calls builder, runCalls X calls = .ok builder →
      ((∃ e, builder.build = .error e) ↔ ∀ call ∈ calls, ∀ pair, ¬ call.Adds X pair) ∧
      ∀ policy, builder.build = .ok policy → ∀ keyId origin,
        policy.allows keyId origin = true ↔ ∃ call ∈ calls, call.Adds X (keyId, origin)) ∧
    (∀ policy : CheckpointOriginPolicy, ∀ binding ∈ policy.bindings, ∀ origin ∈ binding.origins,
      origin ≠ [] ∧ '\r' ∉ origin ∧ '\n' ∉ origin) ∧
    (∀ envelope checkpoint, parseCheckpoint envelope = .ok checkpoint →
      (∃ rest, checkpoint.noteBody = checkpoint.origin ++ '\n' :: rest) ∧
      (checkpoint.origin.getLast? = some '\r' →
        ∀ (policy : CheckpointOriginPolicy) keyId, policy.allows keyId checkpoint.origin = false)) ∧
    ∀ calls (verifier : Verifier X),
      ((runSetters calls).build X = .ok verifier ↔
        lastOf SetterCall.trustStore? calls = some verifier.trustStore ∧
        lastOf SetterCall.githubPolicy? calls = some verifier.githubPolicy ∧
        lastOf SetterCall.checkpointOriginPolicy? calls = some verifier.checkpointOriginPolicy) ∧
      (∀ binding ∈ verifier.checkpointOriginPolicy.bindings, ∃ log ∈ verifier.trustStore.tlogs,
        X.sha256 log.publicKey.rawBytes = binding.keyId) ∧
      verifier.githubPolicy.signer.repository.ownerId = none ∧
      verifier.githubPolicy.signer.repository.repositoryId = none := by
  refine ⟨foldlM_succeeds_iff applyCall_succeeds_iff _,
    fun calls builder hrun => ⟨?_, fun policy hbuild keyId origin => ?_⟩, ?_, ?_, ?_⟩
  · rw [build_eq_error, eq_nil_iff_grants]
    constructor
    · intro h call hcall pair hadds
      exact h pair.1 pair.2 ((shows_runCalls hrun pair).mpr ⟨call, hcall, hadds⟩)
    · intro h keyId origin hgrants
      obtain ⟨call, hcall, hadds⟩ := (shows_runCalls hrun (keyId, origin)).mp hgrants
      exact h call hcall _ hadds
  · rw [CheckpointOriginPolicy.allows_iff, build_eq_ok.mp hbuild]
    exact shows_runCalls hrun (keyId, origin)
  · intro policy binding _ origin horigin
    exact binding.origins_valid origin horigin
  · intro envelope checkpoint h
    exact ⟨noteBody_eq_origin h, fun hcr => not_allows_of_cr (List.mem_of_getLast? hcr)⟩
  · intro calls verifier
    rw [verifierBuilder_build_eq_ok, runSetters_eq]
    exact ⟨Iff.rfl, verifier.keys_known, verifier.signer_unpinned⟩

end AttestationVerify
