import AttestationVerify.SctCodec
import AttestationVerify.Verifier

namespace AttestationVerify

open Wire Wire.Rfc6962

/-!
# Verdicts

Two kinds of error answer a question of policy: a `PolicyError`, and a checkpoint origin that is not
allowed.  No step returns one before the data it is about is authenticated.

* `Error.isVerdict`, `Undecided` — those errors, and the steps that never return one;
* `verdicts_authenticated` — what is established of a bundle when the chain returns a verdict, and
  the error an altered origin gets instead.
-/

variable {X : Externals}

/-- The errors that say who signed is not trusted, rather than that something does not verify. -/
def Error.isVerdict : Error → Bool
  | .policy _ => true
  | .transparency .checkpointOriginMismatch => true
  | _ => false

/-- No failure of `x` is a verdict. -/
abbrev Undecided {α : Type} (x : Except Error α) : Prop :=
  FailsWith (fun e => e.isVerdict = false) x

/-- A verdict comes from after a step that returns none. -/
theorem bind_eq_verdict {α β : Type} {x : Except Error α} {f : α → Except Error β} {e : Error}
    (he : e.isVerdict = true) (hx : Undecided x) :
    (x >>= f) = .error e ↔ ∃ a, x = .ok a ∧ f a = .error e :=
  bind_eq_error_of hx (by simp [he])

/-- A check with another error returns no verdict. -/
theorem undecided_ensure {c : Prop} [Decidable c] {e : Error} (h : e.isVerdict = false) :
    Undecided (ensure c e) := failsWith_ensure h

/-- A missing value reported with another error is no verdict. -/
theorem undecided_okOr {α : Type} {o : Option α} {e : Error} (h : e.isVerdict = false) :
    Undecided (okOr o e) := failsWith_okOr h

/-- A loop that keeps the first failure of its candidates keeps no verdict. -/
abbrev KeptUndecided (firstError : Option Error) : Prop :=
  ∀ e ∈ firstError, e.isVerdict = false

/-- At the start nothing is kept. -/
theorem keptUndecided_none : KeptUndecided none := by
  intro e he
  cases he

/-- What is returned in the end is no verdict. -/
theorem KeptUndecided.getD {firstError : Option Error} {default : Error}
    (h : KeptUndecided firstError) (hdefault : default.isVerdict = false) :
    (firstError.getD default).isVerdict = false := by
  cases firstError with
  | none => exact hdefault
  | some e => exact h e rfl

/-- Another failure that is no verdict may be kept. -/
theorem KeptUndecided.or {firstError : Option Error} {e : Error} (h : KeptUndecided firstError)
    (he : e.isVerdict = false) : KeptUndecided (firstError.or (some e)) := by
  cases firstError with
  | none =>
    intro e' he'
    obtain rfl := Option.some.inj he'
    exact he
  | some e' => exact h

/-! ### The statement -/

/-- Malformed JSON is no verdict. -/
theorem undecided_parseStrict (bytes : Bytes) : Undecided (parseStrict X bytes) := by
  unfold parseStrict
  split <;> split <;> simp [Error.isVerdict]

/-- Malformed base64 is no verdict. -/
theorem undecided_strictBase64 (field : String) (s : Str) : Undecided (strictBase64 field s) :=
  undecided_okOr rfl

/-- A malformed subject is no verdict. -/
theorem undecided_statementSubject (index : ℕ) (raw : RawStatementSubject) :
    Undecided (StatementSubject.fromRaw index raw) := by
  unfold StatementSubject.fromRaw
  split
  · exact failsWith_error.mpr rfl
  · split
    · split
      · exact failsWith_ok _
      · exact failsWith_error.mpr rfl
    · exact failsWith_ok _

/-- Reading the statement returns no verdict. -/
theorem undecided_statement (bundle : Bundle) : Undecided (bundle.statement X) := by
  unfold Bundle.statement Statement.fromPayload Statement.fromRaw
  refine .bind (undecided_ensure rfl) fun _ _ => .bind (undecided_parseStrict _) fun value _ => ?_
  refine .bind (undecided_okOr rfl) fun raw _ => .bind (undecided_ensure rfl) fun _ _ => ?_
  refine .bind (undecided_ensure rfl) fun _ _ => .bind (.mapM ?_) fun subjects _ => failsWith_ok _
  intro s _
  exact undecided_statementSubject _ _

/-! ### The transparency log -/

/-- The number of entries is no verdict. -/
theorem undecided_soleTlogEntry (entries : List TlogEntry) : Undecided (soleTlogEntry entries) := by
  match entries with
  | [] => exact failsWith_error.mpr rfl
  | [entry] => exact failsWith_ok entry
  | _ :: _ :: _ => exact failsWith_error.mpr rfl

/-- A malformed PEM text is no verdict. -/
theorem undecided_strictPem (field label : String) (s : Str) :
    Undecided (strictPem field label s) := by
  unfold strictPem
  exact .bind (undecided_okOr rfl) fun _ _ => .bind (undecided_okOr rfl) fun _ _ =>
    undecided_strictBase64 _ _

/-- Reading the entry's body returns no verdict. -/
theorem undecided_parseTlogEntryBody (body : Bytes) : Undecided (parseTlogEntryBody X body) := by
  unfold parseTlogEntryBody TlogEntryBody.fromRaw
  refine .bind (undecided_parseStrict _) fun value _ => .bind (undecided_okOr rfl) fun raw _ => ?_
  refine .bind (undecided_ensure rfl) fun _ _ => ?_
  dsimp only
  split
  · refine .bind (failsWith_ok _) fun signature _ => ?_
    refine .bind (undecided_okOr rfl) fun _ _ => .bind (undecided_okOr rfl) fun _ _ => ?_
    refine .bind (undecided_strictBase64 _ _) fun _ _ => ?_
    refine .bind (undecided_strictBase64 _ _) fun _ _ => ?_
    refine .bind (undecided_okOr rfl) fun _ _ => .bind (undecided_strictPem _ _ _) fun _ _ => ?_
    exact failsWith_ok _
  · exact .bind (failsWith_error.mpr rfl) fun _ h => by cases h

/-- Binding the entry to the envelope returns no verdict. -/
theorem undecided_checkEntryBinding (tlogEntry : TlogEntry) (body : TlogEntryBody)
    (envelope : DsseEnvelope) (leafDer : Bytes) :
    Undecided (checkEntryBinding X tlogEntry body envelope leafDer) := by
  unfold checkEntryBinding
  refine .bind (undecided_ensure rfl) fun _ _ => .bind (undecided_ensure rfl) fun _ _ => ?_
  refine .bind (undecided_ensure rfl) fun _ _ => .bind (undecided_ensure rfl) fun _ _ => ?_
  exact undecided_ensure rfl

/-- A key that does not parse is no verdict. -/
theorem undecided_fromSpkiDer (spkiDer : Bytes) :
    Undecided (EcdsaVerifyingKey.fromSpkiDer X spkiDer) := by
  intro e h
  rw [fromSpkiDer_error h]
  rfl

/-- An unknown log is no verdict. -/
theorem undecided_selectLogKey (trustStore : TrustStore) (logId : Bytes) :
    Undecided (selectLogKey X trustStore logId) := by
  unfold selectLogKey
  exact .bind (undecided_okOr rfl) fun _ _ => .bind (undecided_fromSpkiDer _) fun _ _ =>
    failsWith_ok _

/-- The signed entry timestamp returns no verdict. -/
theorem undecided_verifySet (tlogEntry : TlogEntry) (logKeyId : Bytes)
    (logKey : EcdsaVerifyingKey) : Undecided (verifySet X tlogEntry logKeyId logKey) := by
  unfold verifySet
  exact .bind (undecided_okOr rfl) fun _ _ => undecided_ensure rfl

/-- The inclusion proof returns no verdict. -/
theorem undecided_verifyInclusionProof (body : Bytes) (proof : InclusionProof) :
    Undecided (verifyInclusionProof X body proof) := by
  unfold verifyInclusionProof
  refine .bind (undecided_okOr rfl) fun _ _ => .bind (undecided_okOr rfl) fun _ _ => ?_
  exact .bind (undecided_okOr rfl) fun _ _ => undecided_ensure rfl

/-- A malformed signature line is no verdict. -/
theorem undecided_parseSignatureLine (line : Str) : Undecided (parseSignatureLine line) := by
  unfold parseSignatureLine
  refine .bind (undecided_okOr rfl) fun _ _ => .bind (undecided_okOr rfl) fun _ _ => ?_
  refine .bind (undecided_strictBase64 _ _) fun _ _ => .bind (undecided_ensure rfl) fun _ _ => ?_
  exact .bind (undecided_okOr rfl) fun _ _ => failsWith_ok _

/-- A malformed checkpoint is no verdict. -/
theorem undecided_parseCheckpoint (envelope : Str) : Undecided (parseCheckpoint envelope) := by
  unfold parseCheckpoint parseNoteBody parseSignatureLines
  refine .bind (undecided_okOr rfl) fun _ _ => .bind ?_ fun _ _ => .bind ?_ fun _ _ => ?_
  · refine .bind (undecided_okOr rfl) fun _ _ => .bind (undecided_ensure rfl) fun _ _ => ?_
    refine .bind (undecided_okOr rfl) fun _ _ => .bind (undecided_okOr rfl) fun _ _ => ?_
    refine .bind (undecided_okOr rfl) fun _ _ => .bind (undecided_strictBase64 _ _) fun _ _ => ?_
    exact failsWith_ok _
  · refine .bind (undecided_ensure rfl) fun _ _ => .bind (.mapM ?_) fun _ _ => ?_
    · intro line _
      exact undecided_parseSignatureLine line
    · exact .bind (undecided_ensure rfl) fun _ _ => failsWith_ok _
  · exact failsWith_ok _

/-- The checkpoint's signature returns no verdict. -/
theorem undecided_verifyCheckpoint (envelope : Str) (treeSize : UInt64) (rootHash : Bytes)
    (log : TransparencyLog) (logKey : EcdsaVerifyingKey) :
    Undecided (verifyCheckpoint X envelope treeSize rootHash log logKey) := by
  unfold verifyCheckpoint
  refine .bind (undecided_parseCheckpoint _) fun _ _ => .bind (undecided_ensure rfl) fun _ _ => ?_
  refine .bind (undecided_ensure rfl) fun _ _ => .bind (undecided_okOr rfl) fun _ _ => ?_
  exact .bind (undecided_ensure rfl) fun _ _ => failsWith_ok _

/-- Reading the leaf returns no verdict. -/
theorem undecided_fromCertificate (certificate : Certificate) :
    Undecided (LeafCertificateInfo.fromCertificate X certificate) := by
  unfold LeafCertificateInfo.fromCertificate
  refine .bind (undecided_okOr rfl) fun _ _ => .bind (undecided_okOr rfl) fun _ _ => ?_
  exact .bind (undecided_fromSpkiDer _) fun _ _ => failsWith_ok _

/-- A time outside a window is no verdict. -/
theorem undecided_checkTimeWindow (integratedTime : UInt64) (window : ValidityPeriod)
    (notBefore notAfter : ℤ) :
    Undecided (checkTimeWindow integratedTime window notBefore notAfter) := by
  unfold checkTimeWindow
  exact .bind (undecided_ensure rfl) fun _ _ => .bind (undecided_ensure rfl) fun _ _ =>
    undecided_ensure rfl

/-! ### The chain and the SCTs -/

/-- A repeated extension is no verdict. -/
theorem undecided_findExtension (extensions : List Extension) (oid : Oid) :
    Undecided (findExtension extensions oid) := by
  unfold findExtension
  split
  · exact failsWith_ok _
  · exact failsWith_ok _
  · exact failsWith_error.mpr rfl

/-- A malformed extension is no verdict. -/
theorem undecided_findExtensionDecoded {α : Type} (decode : Bytes → Option α)
    (extensions : List Extension) (oid : Oid) :
    Undecided (findExtensionDecoded decode extensions oid) := by
  unfold findExtensionDecoded
  refine .bind (undecided_findExtension _ _) fun ext _ => ?_
  cases ext with
  | none => exact failsWith_ok _
  | some ext => exact .bind (undecided_okOr rfl) fun _ _ => failsWith_ok _

/-- The leaf's profile returns no verdict. -/
theorem undecided_verifyLeafProfile (leaf : X509Certificate) :
    Undecided (verifyLeafProfile X leaf) := by
  unfold verifyLeafProfile rejectUnknownCriticalExtensions
  refine .bind (undecided_ensure rfl) fun _ _ => ?_
  refine .bind (undecided_findExtensionDecoded _ _ _) fun _ _ => ?_
  refine .bind (undecided_ensure rfl) fun _ _ => ?_
  refine .bind (undecided_findExtensionDecoded _ _ _) fun _ _ => ?_
  refine .bind (undecided_okOr rfl) fun _ _ => .bind (undecided_ensure rfl) fun _ _ => ?_
  refine .bind (undecided_findExtensionDecoded _ _ _) fun _ _ => ?_
  exact .bind (undecided_okOr rfl) fun _ _ => undecided_ensure rfl

/-- An authority's profile returns no verdict. -/
theorem undecided_verifyCaProfile (cert : X509Certificate) (i : ℕ) :
    Undecided (verifyCaProfile X cert i) := by
  unfold verifyCaProfile rejectUnknownCriticalExtensions
  refine .bind (undecided_ensure rfl) fun _ _ => ?_
  refine .bind (undecided_findExtensionDecoded _ _ _) fun _ _ => ?_
  refine .bind (undecided_okOr rfl) fun _ _ => .bind (undecided_ensure rfl) fun _ _ => ?_
  refine .bind (undecided_ensure rfl) fun _ _ => ?_
  refine .bind (undecided_findExtensionDecoded _ _ _) fun _ _ => ?_
  exact .bind (undecided_okOr rfl) fun _ _ => undecided_ensure rfl

/-- A certificate's signature returns no verdict. -/
theorem undecided_verifySignature (child issuer : X509Certificate) :
    Undecided (verifySignature X child issuer) := by
  unfold verifySignature
  refine .bind (undecided_okOr rfl) fun _ _ => .bind (undecided_fromSpkiDer _) fun _ _ => ?_
  refine .bind (undecided_ensure rfl) fun _ _ => .bind (undecided_okOr rfl) fun _ _ => ?_
  exact undecided_ensure rfl

/-- The walk up a chain returns no verdict. -/
theorem undecided_walkChain (t : ℤ) (signee : X509Certificate) (i : ℕ)
    (issuers : List X509Certificate) : Undecided (walkChain X t signee i issuers) := by
  induction issuers generalizing signee i with
  | nil => exact failsWith_ok _
  | cons issuer rest ih =>
    unfold walkChain verifyTimeWindow
    refine .bind (undecided_ensure rfl) fun _ _ => .bind (undecided_ensure rfl) fun _ _ => ?_
    refine .bind (undecided_verifyCaProfile _ _) fun _ _ => ?_
    exact .bind (undecided_verifySignature _ _) fun _ _ => ih _ _

/-- One authority returns no verdict. -/
theorem undecided_tryValidateAgainstCa (leaf : X509Certificate) (ca : CertificateAuthority)
    (t : ℤ) : Undecided (tryValidateAgainstCa X leaf ca t) := by
  unfold tryValidateAgainstCa verifyTimeWindow
  refine .bind (.mapM fun c _ => undecided_okOr rfl) fun chain _ => ?_
  split
  · exact failsWith_ok _
  · split
    · exact failsWith_ok _
    · refine .bind (undecided_ensure rfl) fun _ _ => .bind (undecided_ensure rfl) fun _ _ => ?_
      refine .bind (undecided_verifyLeafProfile _) fun _ _ => ?_
      refine .bind (undecided_walkChain _ _ _ _) fun _ _ => .bind (undecided_okOr rfl) fun _ _ => ?_
      exact .bind (undecided_okOr rfl) fun _ _ => failsWith_ok _

/-- The error reported at the end is one a candidate failed with. -/
theorem undecided_tryCandidates (leaf : X509Certificate) (t : ℤ) (cas : List CertificateAuthority)
    {firstError : Option Error} (hfirst : KeptUndecided firstError) :
    Undecided (tryCandidates X leaf t cas firstError) := by
  induction cas generalizing firstError with
  | nil => exact failsWith_error.mpr (hfirst.getD rfl)
  | cons ca rest ih =>
    unfold tryCandidates
    split
    · exact failsWith_ok _
    · exact ih hfirst
    · rename_i e he
      apply ih
      exact hfirst.or (undecided_tryValidateAgainstCa leaf ca t e he)

/-- All authorities together return no verdict, whichever failure is kept. -/
theorem undecided_validateChain (leafDer : Bytes) (trustStore : TrustStore) (t : ℤ) :
    Undecided (validateChain X leafDer trustStore t) := by
  unfold validateChain
  exact .bind (undecided_okOr rfl) fun _ _ => undecided_tryCandidates _ _ _ keptUndecided_none

/-- A missing SCT extension is no verdict. -/
theorem undecided_extractSctListBytes (tbs : TbsCertificate) :
    Undecided (extractSctListBytes X tbs) := by
  unfold extractSctListBytes
  refine .bind (undecided_findExtension _ _) fun _ _ => ?_
  exact .bind (undecided_okOr rfl) fun _ _ => undecided_okOr rfl

/-- A malformed SCT list is no verdict. -/
theorem undecided_parseSctList (bytes : Bytes) : Undecided (parseSctList bytes) := by
  intro e h
  rw [failsWith_parseSctList bytes e h]
  rfl

/-- Rebuilding the precertificate returns no verdict. -/
theorem undecided_precertTbsDer (tbsDer : Bytes) : Undecided (precertTbsDer X tbsDer) := by
  unfold precertTbsDer
  refine .bind (undecided_okOr rfl) fun _ _ => .bind (undecided_okOr rfl) fun _ _ => ?_
  refine .bind (undecided_ensure rfl) fun _ _ => .bind (undecided_okOr rfl) fun _ _ => ?_
  refine .bind (undecided_okOr rfl) fun _ _ => .bind (undecided_okOr rfl) fun _ _ => ?_
  exact undecided_okOr rfl

/-- One SCT returns no verdict. -/
theorem undecided_verifyOneSct (sct : ParsedSct) (precertTbs : Bytes) (issuerKeyHash : Octets 32)
    (trustStore : TrustStore) :
    Undecided (verifyOneSct X sct precertTbs issuerKeyHash trustStore) := by
  unfold verifyOneSct digitallySignedBytes
  refine .bind (undecided_okOr rfl) fun _ _ => .bind (undecided_ensure rfl) fun _ _ => ?_
  refine .bind (undecided_ensure rfl) fun _ _ => .bind (undecided_ensure rfl) fun _ _ => ?_
  refine .bind (.bind (undecided_ensure rfl) fun _ _ => ?_) fun _ _ => ?_
  · exact .bind (undecided_ensure rfl) fun _ _ => failsWith_ok _
  · exact .bind (undecided_fromSpkiDer _) fun _ _ => undecided_ensure rfl

/-- All SCTs together return no verdict. -/
theorem undecided_tryScts (precertTbs : Bytes) (issuerKeyHash : Octets 32) (trustStore : TrustStore)
    (scts : List ParsedSct) {firstError : Option Error} (hfirst : KeptUndecided firstError) :
    Undecided (tryScts X precertTbs issuerKeyHash trustStore scts firstError) := by
  induction scts generalizing firstError with
  | nil => exact failsWith_error.mpr (hfirst.getD rfl)
  | cons sct rest ih =>
    unfold tryScts
    split
    · exact failsWith_ok _
    · rename_i e he
      apply ih
      exact hfirst.or (undecided_verifyOneSct sct precertTbs issuerKeyHash trustStore e he)

/-- The embedded SCTs return no verdict. -/
theorem undecided_verifyEmbeddedScts (validated : ValidatedLeaf) (trustStore : TrustStore) :
    Undecided (verifyEmbeddedScts X validated trustStore) := by
  unfold verifyEmbeddedScts
  refine .bind (undecided_extractSctListBytes _) fun _ _ => ?_
  refine .bind (undecided_parseSctList _) fun _ _ => .bind (undecided_ensure rfl) fun _ _ => ?_
  refine .bind (undecided_okOr rfl) fun _ _ => .bind (undecided_precertTbsDer _) fun _ _ => ?_
  exact undecided_tryScts _ _ _ _ keptUndecided_none

/-! ### The claims -/

/-- A malformed claim is no verdict. -/
theorem undecided_extractUtf8Claim (extensions : List Extension) (oid : Oid) :
    Undecided (extractUtf8Claim X extensions oid) := by
  unfold extractUtf8Claim
  refine .bind (undecided_findExtension _ _) fun ext _ => ?_
  cases ext with
  | none => exact failsWith_ok _
  | some ext => exact .bind (undecided_okOr rfl) fun _ _ => failsWith_ok _

/-- A malformed SAN is no verdict. -/
theorem undecided_extractSanUri (extensions : List Extension) :
    Undecided (extractSanUri X extensions) := by
  unfold extractSanUri
  refine .bind (undecided_findExtension _ _) fun ext _ => ?_
  cases ext with
  | none => exact failsWith_ok _
  | some ext => exact .bind (undecided_okOr rfl) fun _ _ => failsWith_ok _

/-- Reading the claims returns no verdict. -/
theorem undecided_extractClaims (validated : ValidatedLeaf) :
    Undecided (extractClaims X validated) := by
  have hclaim (n : ℕ) := undecided_extractUtf8Claim (X := X)
    (extensionsSlice validated.leaf.tbsCertificate) (fulcioOid n)
  unfold extractClaims
  refine .bind (undecided_extractSanUri _) fun _ _ => .bind (hclaim 8) fun _ _ => ?_
  refine .bind (hclaim 9) fun _ _ => .bind (hclaim 10) fun _ _ => .bind (hclaim 11) fun _ _ => ?_
  refine .bind (hclaim 12) fun _ _ => .bind (hclaim 13) fun _ _ => .bind (hclaim 14) fun _ _ => ?_
  refine .bind (hclaim 15) fun _ _ => .bind (hclaim 16) fun _ _ => .bind (hclaim 17) fun _ _ => ?_
  refine .bind (hclaim 18) fun _ _ => .bind (hclaim 19) fun _ _ => .bind (hclaim 20) fun _ _ => ?_
  exact .bind (hclaim 21) fun _ _ => failsWith_ok _

/-! ### The identity policy -/

/-- The only failures of `x` are policy errors. -/
abbrev Decided {α : Type} (x : Except Error α) : Prop := FailsWith (fun e => ∃ p, e = .policy p) x

/-- A check with a policy error. -/
theorem decided_ensure {c : Prop} [Decidable c] {p : PolicyError} :
    Decided (ensure c (.policy p)) := failsWith_ensure ⟨p, rfl⟩

/-- A missing value reported with a policy error. -/
theorem decided_okOr {α : Type} {o : Option α} {p : PolicyError} :
    Decided (okOr o (.policy p)) := failsWith_okOr ⟨p, rfl⟩

/-- A repository claim of another form is the policy's concern. -/
theorem decided_parseGithubRepoUri (uri : Str) (claim : String) :
    Decided (parseGithubRepoUri uri claim) := by
  unfold parseGithubRepoUri malformedClaim
  refine .bind decided_okOr fun _ _ => .bind decided_okOr fun _ _ => ?_
  exact .bind decided_ensure fun _ _ => .bind decided_ensure fun _ _ => failsWith_ok _

/-- A signer of another form is the policy's concern. -/
theorem decided_parseSignerSanUri (uri : Str) : Decided (parseSignerSanUri uri) := by
  unfold parseSignerSanUri malformedClaim
  refine .bind decided_okOr fun _ _ => .bind decided_okOr fun _ _ => ?_
  refine .bind decided_ensure fun _ _ => .bind decided_ensure fun _ _ => ?_
  refine .bind decided_okOr fun _ _ => .bind decided_okOr fun _ _ => ?_
  exact .bind decided_okOr fun _ _ => .bind decided_ensure fun _ _ => failsWith_ok _

/-- A pinned id is checked by the policy. -/
theorem decided_checkPinnedId (expected : Option UInt64) (found : Option Str) (claim : String)
    (makeErr : Str → Str → PolicyError) : Decided (checkPinnedId expected found claim makeErr) := by
  cases expected with
  | none => exact failsWith_ok _
  | some id => exact .bind decided_okOr fun _ _ => decided_ensure

/-- The ref is checked by the policy. -/
theorem decided_checkRefPolicy (found : Str) (policy : RefPolicy) :
    Decided (checkRefPolicy found policy) := by
  cases policy <;> exact decided_ensure

/-- The commit is checked by the policy. -/
theorem decided_checkSourceCommit (claims : FulcioClaims) (commit : Option CommitSha) :
    Decided (checkSourceCommit claims commit) := by
  cases commit with
  | none => exact failsWith_ok _
  | some sha => exact .bind decided_okOr fun _ _ => decided_ensure

/-- The workflow's revision is checked by the policy. -/
theorem decided_checkSignerRevision (claims : FulcioClaims) (signer : SignerUriParts)
    (revision : WorkflowRevisionPolicy) : Decided (checkSignerRevision claims signer revision) := by
  cases revision with
  | any => exact failsWith_ok _
  | ref expected => exact decided_ensure
  | sha expected => exact .bind decided_okOr fun _ _ => decided_ensure

/-- The last step returns no error of another kind. -/
theorem decided_matchPolicy (claims : FulcioClaims) (policy : GithubPolicy) :
    Decided (matchPolicy claims policy) := by
  unfold matchPolicy requireClaim
  refine .bind decided_okOr fun _ _ => .bind decided_ensure fun _ _ => ?_
  refine .bind decided_okOr fun _ _ => .bind (decided_parseGithubRepoUri _ _) fun _ _ => ?_
  refine .bind decided_ensure fun _ _ => .bind (decided_checkPinnedId _ _ _ _) fun _ _ => ?_
  refine .bind (decided_checkPinnedId _ _ _ _) fun _ _ => .bind decided_okOr fun _ _ => ?_
  refine .bind (decided_checkRefPolicy _ _) fun _ _ => ?_
  refine .bind (decided_checkSourceCommit _ _) fun _ _ => .bind decided_okOr fun _ _ => ?_
  refine .bind (decided_parseSignerSanUri _) fun _ _ => .bind decided_ensure fun _ _ => ?_
  refine .bind decided_ensure fun _ _ => .bind (decided_checkSignerRevision _ _ _) fun _ _ => ?_
  exact failsWith_ok _

/-! ### Verdicts -/

/-- The log entry's only verdict is on an origin, once the checkpoint over it is verified. -/
theorem verifyTlogEntry_verdict {bundle : Bundle} {trustStore : TrustStore}
    {policy : CheckpointOriginPolicy} {e : Error} (he : e.isVerdict = true)
    (h : verifyTlogEntry X bundle trustStore policy = .error e) :
    e = .transparency .checkpointOriginMismatch ∧ ∃ tlogEntry body log logKey proof checkpoint,
      EntryAuthenticated X bundle trustStore tlogEntry body log logKey proof checkpoint ∧
      policy.allows (X.sha256 log.publicKey.rawBytes) checkpoint.origin = false := by
  -- no step before the checkpoint's origin returns a verdict: each of them succeeded
  unfold verifyTlogEntry at h
  obtain ⟨tlogEntry, hentries, h⟩ := (bind_eq_verdict he (undecided_soleTlogEntry _)).mp h
  obtain ⟨body, hparsed, h⟩ := (bind_eq_verdict he (undecided_parseTlogEntryBody _)).mp h
  obtain ⟨_, hbound, h⟩ := (bind_eq_verdict he (undecided_checkEntryBinding _ _ _ _)).mp h
  obtain ⟨⟨log, logKey⟩, hlog, h⟩ := (bind_eq_verdict he (undecided_selectLogKey _ _)).mp h
  obtain ⟨_, hset, h⟩ := (bind_eq_verdict he (undecided_verifySet _ _ _)).mp h
  obtain ⟨proof, hproof, h⟩ := (bind_eq_verdict he (undecided_okOr rfl)).mp h
  obtain ⟨_, hincluded, h⟩ := (bind_eq_verdict he (undecided_verifyInclusionProof _ _)).mp h
  obtain ⟨checkpoint, hcovered, h⟩ :=
    (bind_eq_verdict he (undecided_verifyCheckpoint _ _ _ _ _)).mp h
  rcases bind_eq_error.mp h with h | ⟨_, -, h⟩
  · obtain ⟨hnot, rfl⟩ := ensure_eq_error.mp h
    obtain ⟨hselected, hkey⟩ := selectLogKey_eq_ok.mp hlog
    refine ⟨rfl, tlogEntry, body, log, logKey, proof, checkpoint, ?_, Bool.not_eq_true _ ▸ hnot⟩
    exact
      { entries := soleTlogEntry_eq_ok.mp hentries
        parsed := hparsed
        bound := checkEntryBinding_eq_ok.mp hbound
        selection := ⟨hselected, hkey⟩
        promised := verifySet_eq_ok.mp hset
        proof_eq := okOr_eq_ok.mp hproof
        included := verifyInclusionProof_eq_ok.mp hincluded
        covered := verifyCheckpoint_eq_ok.mp hcovered }
  · -- after the origin only the windows are left
    obtain ⟨_, -, h⟩ := (bind_eq_verdict he (undecided_fromCertificate _)).mp h
    obtain ⟨_, -, h⟩ := (bind_eq_verdict he (undecided_checkTimeWindow _ _ _ _)).mp h
    cases h

/-- A verdict of the steps before the identity policy is the log entry's. -/
theorem Verifier.authenticate_verdict {verifier : Verifier X} {subject : Subject} {bundle : Bundle}
    {e : Error} (he : e.isVerdict = true) (h : verifier.authenticate subject bundle = .error e) :
    verifyTlogEntry X bundle verifier.trustStore verifier.checkpointOriginPolicy = .error e := by
  -- only the log entry's step can return a verdict, so every other one succeeded
  unfold Verifier.authenticate at h
  obtain ⟨_, -, h⟩ := (bind_eq_verdict he (undecided_ensure rfl)).mp h
  obtain ⟨_, -, h⟩ := (bind_eq_verdict he (undecided_statement _)).mp h
  obtain ⟨_, -, h⟩ := (bind_eq_verdict he (undecided_ensure rfl)).mp h
  obtain ⟨_, -, h⟩ := (bind_eq_verdict he (undecided_okOr rfl)).mp h
  rcases bind_eq_error.mp h with h | ⟨_, -, h⟩
  · exact h
  obtain ⟨_, -, h⟩ := (bind_eq_verdict he (undecided_validateChain _ _ _)).mp h
  obtain ⟨_, -, h⟩ := (bind_eq_verdict he (undecided_fromSpkiDer _)).mp h
  obtain ⟨_, -, h⟩ := (bind_eq_verdict he (undecided_ensure rfl)).mp h
  obtain ⟨_, -, h⟩ := (bind_eq_verdict he (undecided_verifyEmbeddedScts _ _)).mp h
  obtain ⟨_, -, h⟩ := (bind_eq_verdict he (undecided_extractClaims _)).mp h
  cases h

/-- A policy error is about a bundle that passes every other step. -/
theorem Verifier.accepted_of_policyError {verifier : Verifier X} {subject : Subject}
    {bundle : Bundle} {p : PolicyError}
    (h : verifier.verifyDigest subject bundle = .error (.policy p)) :
    ∃ statement matched tlogEntry leaf claims,
      Accepted verifier subject bundle statement matched tlogEntry leaf claims := by
  rw [verifyDigest_eq, bind_eq_error] at h
  rcases h with h | ⟨a, ha, -⟩
  · -- a verdict on the entry is about its origin, no `PolicyError`
    have hentry := authenticate_verdict (by rfl) h
    exact absurd (verifyTlogEntry_verdict (by rfl) hentry).1 (by simp)
  · obtain ⟨tlogEntry, leaf, haccepted, -⟩ := authenticate_eq_ok.mp ha
    exact ⟨_, _, tlogEntry, leaf, _, haccepted⟩

/-! ### Another origin -/

/-- `text` with another first line. -/
def withOrigin (origin text : Str) : Str := origin ++ text.dropWhile (· ≠ '\n')

/-- Only the first line is replaced. -/
theorem withOrigin_line {origin line : Str} (rest : Str) (hline : '\n' ∉ line) :
    withOrigin origin (line ++ '\n' :: rest) = origin ++ '\n' :: rest := by
  have hall : ∀ c ∈ line, decide (c ≠ '\n') = true := by
    intro c hc
    exact decide_eq_true fun h => hline (h ▸ hc)
  rw [withOrigin, List.dropWhile_append_of_pos hall]
  simp

/-- The first line of a checkpoint is its origin and nothing else. -/
theorem parseCheckpoint_withOrigin {origin envelope : Str} {checkpoint : ParsedCheckpoint}
    (h : parseCheckpoint envelope = .ok checkpoint) (hne : origin ≠ []) (hline : '\n' ∉ origin) :
    parseCheckpoint (withOrigin origin envelope) = .ok
      { checkpoint with origin := origin, noteBody := withOrigin origin checkpoint.noteBody } := by
  obtain ⟨bodyText, block, hnote⟩ := exists_isNote h
  rw [parseCheckpoint_of_isNote hnote] at h
  simp only [bind_eq_ok, pure_eq_ok, Except.ok.injEq] at h
  obtain ⟨body, hbody, signatures, hsignatures, rfl⟩ := h
  simp only [parseNoteBody, bind_eq_ok, okOr_eq_ok, Prod.exists] at hbody
  -- everything after the first line is read as before
  obtain ⟨line, rest, hsplit, _, hensure, hfields⟩ := hbody
  obtain ⟨rfl, hnot⟩ := splitOnce_eq_some.mp hsplit
  have hbody' : parseNoteBody (origin ++ '\n' :: rest) = .ok { body with origin := origin } := by
    simp only [pure_eq_ok] at hfields
    obtain ⟨treeSizeLine, hline₀, treeSize, htreeSize, rootHashLine, hline₁, rootHash, hrootHash,
      hbody⟩ := hfields
    rw [← Except.ok.inj hbody, parseNoteBody, splitOnce_append _ hline, okOr_some, ok_bind]
    dsimp only
    rw [ensure_of hne, ok_bind, hline₀, okOr_some, ok_bind, htreeSize, okOr_some, ok_bind, hline₁,
      okOr_some, ok_bind, hrootHash]
    rfl
  -- the blank line that ends the note is the same one: the new origin holds no line feed
  have hnote' : IsNote (withOrigin origin envelope) (origin ++ '\n' :: rest) block := by
    constructor
    · rw [hnote.split, List.append_assoc, List.append_assoc, List.cons_append,
        withOrigin_line _ hnot]
      simp
    · have hfirst := hnote.first
      rw [List.append_assoc, infix_append_iff_of_not_mem hnot] at hfirst
      rwa [List.append_assoc, infix_append_iff_of_not_mem hline]
  rw [parseCheckpoint_of_isNote hnote', hbody', ok_bind, hsignatures, ok_bind]
  dsimp only
  rw [List.append_assoc, List.append_assoc, List.cons_append, withOrigin_line _ hnot]
  rfl

/-- The signed text opens with the origin's line. -/
theorem origin_opens_noteBody {envelope : Str} {checkpoint : ParsedCheckpoint}
    (h : parseCheckpoint envelope = .ok checkpoint) :
    ∃ rest, checkpoint.noteBody = checkpoint.origin ++ '\n' :: rest ∧ '\n' ∉ checkpoint.origin := by
  obtain ⟨bodyText, hnote, hbody⟩ := parseNoteBody_of_parseCheckpoint h
  simp only [parseNoteBody, bind_eq_ok, okOr_eq_ok, pure_eq_ok, Except.ok.injEq, Prod.exists]
    at hbody
  obtain ⟨line, rest, hsplit, _, -, _, -, _, -, _, -, _, -, hfields⟩ := hbody
  obtain ⟨rfl, hline⟩ := splitOnce_eq_some.mp hsplit
  obtain ⟨rfl, -⟩ := NoteBody.mk.inj hfields
  exact ⟨rest ++ ['\n'], by simp [hnote], hline⟩

/-- The bundle with `f` applied to the checkpoint of every inclusion proof. -/
def TlogEntry.mapEnvelope (f : Str → Str) (tlogEntry : TlogEntry) : TlogEntry :=
  { tlogEntry with inclusionProof := tlogEntry.inclusionProof.map fun proof =>
      { proof with checkpoint := ⟨f proof.checkpoint.envelope⟩ } }

/-- The bundle with `f` applied to all its checkpoints. -/
def Bundle.mapEnvelope (f : Str → Str) (bundle : Bundle) : Bundle :=
  { bundle with verificationMaterial :=
      { bundle.verificationMaterial with
        tlogEntries := bundle.verificationMaterial.tlogEntries.map (·.mapEnvelope f) } }

/-- No signature line of the entry's checkpoint verifies under the selected key once the origin line
    of the signed text is `origin`. -/
def NoLineVerifies (X : Externals) (bundle : Bundle) (trustStore : TrustStore) (origin : Str) :
    Prop :=
  ∀ tlogEntry ∈ bundle.verificationMaterial.tlogEntries, ∀ proof ∈ tlogEntry.inclusionProof,
    ∀ log logKey, SelectedLog X trustStore tlogEntry.logIdKeyId log logKey →
      ∀ checkpoint, parseCheckpoint proof.checkpoint.envelope = .ok checkpoint →
        ∀ signature ∈ checkpoint.signatures,
          logKey.verifyDer X (utf8 (withOrigin origin checkpoint.noteBody)) signature.signature =
            false

/-- With another origin the checkpoint fails by its signature, not by the origin. -/
theorem verifyCheckpoint_withOrigin {origin envelope : Str} {treeSize : UInt64} {rootHash : Bytes}
    {log : TransparencyLog} {logKey : EcdsaVerifyingKey} {checkpoint : ParsedCheckpoint}
    (h : CheckpointSigned X envelope treeSize rootHash log logKey checkpoint)
    (hne : origin ≠ []) (hline : '\n' ∉ origin)
    (hnone : ∀ signature ∈ checkpoint.signatures,
      logKey.verifyDer X (utf8 (withOrigin origin checkpoint.noteBody)) signature.signature =
        false) :
    verifyCheckpoint X (withOrigin origin envelope) treeSize rootHash log logKey =
      .error (.transparency .checkpointSignatureInvalid) := by
  obtain ⟨signature, -, hhint, -⟩ := h.signed
  unfold verifyCheckpoint
  rw [parseCheckpoint_withOrigin h.parsed hne hline, ok_bind]
  dsimp only
  rw [ensure_of h.treeSize_eq, ok_bind, ensure_of h.rootHash_eq, ok_bind, hhint, okOr_some, ok_bind]
  rw [ensure_not, error_bind]
  rw [any_passes]
  -- the hinted lines are among all of them, and none verifies
  rintro ⟨s, hs, hverify⟩
  rw [hnone s (List.mem_of_mem_filter hs)] at hverify
  cases hverify

/-- The checkpoint's signature is checked before its origin, whatever the policy. -/
theorem verifyTlogEntry_withOrigin {bundle : Bundle} {trustStore : TrustStore}
    {policy : CheckpointOriginPolicy} {timestamp : VerifiedTimestamp} {origin : Str}
    (hok : verifyTlogEntry X bundle trustStore policy = .ok timestamp)
    (hne : origin ≠ []) (hline : '\n' ∉ origin) (hnone : NoLineVerifies X bundle trustStore origin)
    (policy' : CheckpointOriginPolicy) :
    verifyTlogEntry X (bundle.mapEnvelope (withOrigin origin)) trustStore policy' =
      .error (.transparency .checkpointSignatureInvalid) := by
  obtain ⟨tlogEntry, body, log, logKey, proof, checkpoint, leaf, h, -⟩ :=
    verifyTlogEntry_eq_ok.mp hok
  have hnone := hnone tlogEntry (by simp [h.entries]) proof h.proof_eq log logKey h.selection
    checkpoint h.covered.parsed
  have hentries : (bundle.mapEnvelope (withOrigin origin)).verificationMaterial.tlogEntries =
      [tlogEntry.mapEnvelope (withOrigin origin)] := by
    simp [Bundle.mapEnvelope, h.entries]
  -- the steps before the checkpoint read nothing of the note
  have hbound : checkEntryBinding X (tlogEntry.mapEnvelope (withOrigin origin)) body
      bundle.dsseEnvelope bundle.verificationMaterial.certificate.rawBytes = .ok () :=
    checkEntryBinding_eq_ok.mpr ⟨h.bound.kind, h.bound.version, h.bound.signature,
      h.bound.certificate, h.bound.payloadHash, h.bound.envelopeHash⟩
  have hlog := selectLogKey_eq_ok.mpr ⟨h.selection.selected, h.selection.key⟩
  have hset : verifySet X (tlogEntry.mapEnvelope (withOrigin origin))
      (X.sha256 log.publicKey.rawBytes).bytes logKey = .ok () :=
    verifySet_eq_ok.mpr h.promised
  obtain ⟨hashes, rootHash, hincluded⟩ := h.included
  have hproof : verifyInclusionProof X tlogEntry.canonicalizedBody
      { proof with checkpoint := ⟨withOrigin origin proof.checkpoint.envelope⟩ } = .ok () :=
    verifyInclusionProof_eq_ok.mpr
      ⟨hashes, rootHash, hincluded.rootHash_eq, hincluded.hashes_eq, hincluded.recomputed⟩
  unfold verifyTlogEntry
  rw [hentries, soleTlogEntry, ok_bind]
  dsimp only [TlogEntry.mapEnvelope, Bundle.mapEnvelope] at hbound hset ⊢
  rw [h.parsed, ok_bind, hbound, ok_bind, hlog, ok_bind]
  dsimp only
  rw [hset, ok_bind, h.proof_eq, Option.map_some, okOr_some, ok_bind, hproof, ok_bind,
    verifyCheckpoint_withOrigin h.covered hne hline hnone, error_bind]

/-- **Policy is consulted on authenticated data only.**  A policy error is about a bundle that
    passes every other step; an origin is only ever refused when the selected key signed the note it
    opens; and an accepted bundle under another origin fails at the signature. -/
theorem verdicts_authenticated (verifier : Verifier X) (subject : Subject) (bundle : Bundle) :
    (∀ p, verifier.verifyDigest subject bundle = .error (.policy p) →
      ∃ statement matched tlogEntry leaf claims,
        Accepted verifier subject bundle statement matched tlogEntry leaf claims) ∧
    (verifier.verifyDigest subject bundle = .error (.transparency .checkpointOriginMismatch) →
      ∃ tlogEntry body log logKey proof checkpoint,
        EntryAuthenticated X bundle verifier.trustStore tlogEntry body log logKey proof checkpoint ∧
        (∃ rest, checkpoint.noteBody = checkpoint.origin ++ '\n' :: rest ∧
          '\n' ∉ checkpoint.origin) ∧
        verifier.checkpointOriginPolicy.allows (X.sha256 log.publicKey.rawBytes)
          checkpoint.origin = false) ∧
    ∀ trustStore policy timestamp origin,
      verifyTlogEntry X bundle trustStore policy = .ok timestamp → origin ≠ [] → '\n' ∉ origin →
        NoLineVerifies X bundle trustStore origin → ∀ policy',
          verifyTlogEntry X (bundle.mapEnvelope (withOrigin origin)) trustStore policy' =
            .error (.transparency .checkpointSignatureInvalid) := by
  refine ⟨?_, ?_, ?_⟩
  · intro p h
    exact Verifier.accepted_of_policyError h
  · intro h
    rw [Verifier.verifyDigest_eq, bind_eq_error] at h
    have hauthenticate : verifier.authenticate subject bundle =
        .error (.transparency .checkpointOriginMismatch) := by
      -- `matchPolicy` returns policy errors only, so it came from the steps before it
      rcases h with h | ⟨a, -, h⟩
      · exact h
      · rcases bind_eq_error.mp h with h | ⟨_, -, h⟩
        · obtain ⟨p, hp⟩ := decided_matchPolicy _ _ _ h
          cases hp
        · cases h
    obtain ⟨-, tlogEntry, body, log, logKey, proof, checkpoint, hauthenticated, hnot⟩ :=
      verifyTlogEntry_verdict (by rfl) (Verifier.authenticate_verdict (by rfl) hauthenticate)
    obtain ⟨rest, hnote, hline⟩ := origin_opens_noteBody hauthenticated.covered.parsed
    exact ⟨tlogEntry, body, log, logKey, proof, checkpoint, hauthenticated,
      ⟨rest, hnote, hline⟩, hnot⟩
  · intro trustStore policy timestamp origin hok hne hline hnone policy'
    exact verifyTlogEntry_withOrigin hok hne hline hnone policy'

end AttestationVerify
