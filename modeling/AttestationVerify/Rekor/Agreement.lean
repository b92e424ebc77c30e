import AttestationVerify.Issuance

namespace AttestationVerify

open Wire Wire.Rfc6962

/-!
# Two walks to one root

Two accepted inclusion proofs compared with one another, with no tree between them: neither walk is
known to follow the audit path of anything.

* `forkCollision` — the two hash inputs at the lowest node where two walks part;
* `walkUp_agree` — two walks from one position to one root are one walk, or collide there;
* `recomputeRoot_agree` — so are the bodies they start from.
-/

section Walks

variable {X : Externals}

/-- The children hashed at node `i` of a level: the walk's own node and its sibling, in order. -/
def children (i : ℕ) (current sibling : Octets 32) : Octets 32 × Octets 32 :=
  if i % 2 = 1 then (sibling, current) else (current, sibling)

/-- The hash above `current` and its sibling. -/
def parent (X : Externals) (i : ℕ) (current sibling : Octets 32) : Octets 32 :=
  nodeHash X.sha256 (children i current sibling).1 (children i current sibling).2

/-- The input of that hash. -/
def parentPreimage (i : ℕ) (current sibling : Octets 32) : Bytes :=
  nodePreimage (children i current sibling).1 (children i current sibling).2

/-- Equal hashes have equal children, or are a collision. -/
theorem parent_or_collision {i : ℕ} {c s c' s' : Octets 32}
    (h : parent X i c s = parent X i c' s') :
    (c = c' ∧ s = s') ∨ Collision X.sha256 (parentPreimage i c s) (parentPreimage i c' s') := by
  rcases node_or_collision h with ⟨hl, hr⟩ | hcollision
  · unfold children at hl hr
    by_cases hodd : i % 2 = 1
    · rw [if_pos hodd, if_pos hodd] at hl hr
      exact .inl ⟨hr, hl⟩
    · rw [if_neg hodd, if_neg hodd] at hl hr
      exact .inl ⟨hl, hr⟩
  · exact .inr hcollision

/-! ### One turn of the loop -/

/-- Node `i` of a level whose last node is `last` has a sibling. -/
def HasSibling (i last : ℕ) : Prop := i % 2 = 1 ∨ i < last

instance (i last : ℕ) : Decidable (HasSibling i last) := inferInstanceAs (Decidable (_ ∨ _))

/-- At the root nothing is left. -/
theorem walkUp_zero {i : ℕ} {current root : Octets 32} {remaining : List (Octets 32)} :
    walkUp X i 0 current remaining = some root ↔ remaining = [] ∧ current = root := by
  rw [walkUp.eq_def, if_pos rfl]
  split <;> simp_all

/-- A step with a sibling takes one hash of the proof. -/
theorem walkUp_sibling {i last : ℕ} {current root : Octets 32} {remaining : List (Octets 32)}
    (hlast : last ≠ 0) (hsibling : HasSibling i last) :
    walkUp X i last current remaining = some root ↔ ∃ s rest, remaining = s :: rest ∧
      walkUp X (i / 2) (last / 2) (parent X i current s) rest = some root := by
  rw [walkUp.eq_def, if_neg hlast]
  unfold parent children
  by_cases hodd : i % 2 = 1
  · rw [if_pos hodd]
    cases remaining with
    | nil => simp
    | cons s rest => simp [hodd, rfc6962NodeHash]
  · have hlt : i < last := hsibling.resolve_left hodd
    rw [if_neg hodd, if_pos hlt]
    cases remaining with
    | nil => simp
    | cons s rest => simp [hodd, rfc6962NodeHash]

/-- A step without a sibling takes none. -/
theorem walkUp_promoted {i last : ℕ} {current : Octets 32} {remaining : List (Octets 32)}
    (hlast : last ≠ 0) (hsibling : ¬ HasSibling i last) :
    walkUp X i last current remaining = walkUp X (i / 2) (last / 2) current remaining := by
  obtain ⟨heven, hle⟩ := not_or.mp hsibling
  rw [walkUp.eq_def, if_neg hlast, if_neg heven, if_neg hle]

/-! ### Two walks -/

/-- The inputs that two walks hash to one node, at the lowest level where these differ. -/
def forkCollision (X : Externals) (i last : ℕ) (current : Octets 32) (remaining : List (Octets 32))
    (current' : Octets 32) (remaining' : List (Octets 32)) : Bytes × Bytes :=
  if last = 0 then ([], [])
  else if HasSibling i last then
    match remaining, remaining' with
    | s :: rest, s' :: rest' =>
      if parentPreimage i current s ≠ parentPreimage i current' s' ∧
          parent X i current s = parent X i current' s' then
        (parentPreimage i current s, parentPreimage i current' s')
      else
        forkCollision X (i / 2) (last / 2) (parent X i current s) rest (parent X i current' s')
          rest'
    | _, _ => ([], [])
  else forkCollision X (i / 2) (last / 2) current remaining current' remaining'
  termination_by last

/-- **Two walks to one root.**  From one position they are the same walk, node and siblings alike,
    or they hash different inputs to one node. -/
theorem walkUp_agree {i last : ℕ} {current current' root : Octets 32}
    {remaining remaining' : List (Octets 32)}
    (hwalk : walkUp X i last current remaining = some root)
    (hwalk' : walkUp X i last current' remaining' = some root) :
    (current = current' ∧ remaining = remaining') ∨
      Collision X.sha256 (forkCollision X i last current remaining current' remaining').1
        (forkCollision X i last current remaining current' remaining').2 := by
  induction last using Nat.strong_induction_on generalizing i current current' remaining
    remaining' with
  | _ last ih =>
    rw [forkCollision.eq_def]
    by_cases hlast : last = 0
    · -- both walks have arrived
      subst hlast
      obtain ⟨rfl, rfl⟩ := walkUp_zero.mp hwalk
      obtain ⟨rfl, rfl⟩ := walkUp_zero.mp hwalk'
      exact .inl ⟨rfl, rfl⟩
    rw [if_neg hlast]
    have hhalf : last / 2 < last := by omega
    by_cases hsibling : HasSibling i last
    · obtain ⟨s, rest, rfl, hup⟩ := (walkUp_sibling hlast hsibling).mp hwalk
      obtain ⟨s', rest', rfl, hup'⟩ := (walkUp_sibling hlast hsibling).mp hwalk'
      rw [if_pos hsibling]
      dsimp only
      split
      · -- they part here
        rename_i hfork
        exact .inr hfork
      · rename_i hfork
        rcases ih (last / 2) hhalf hup hup' with ⟨hparent, rfl⟩ | hcollision
        · -- one parent, and its inputs are one
          rcases parent_or_collision hparent with ⟨rfl, rfl⟩ | hcollision
          · exact .inl ⟨rfl, rfl⟩
          · exact absurd ⟨hcollision.1, hparent⟩ hfork
        · exact .inr hcollision
    · rw [if_neg hsibling]
      rw [walkUp_promoted hlast hsibling] at hwalk hwalk'
      exact ih (last / 2) hhalf hwalk hwalk'

/-- The inputs that collide when two bodies are shown at one position under one root. -/
def bodyFork (X : Externals) (leafIndex treeSize : UInt64) (body : Bytes)
    (hashes : List (Octets 32)) (body' : Bytes) (hashes' : List (Octets 32)) : Bytes × Bytes :=
  if body ≠ body' ∧ rfc6962LeafHash X body = rfc6962LeafHash X body' then
    (leafPreimage body, leafPreimage body')
  else forkCollision X leafIndex.toNat (treeSize.toNat - 1) (rfc6962LeafHash X body) hashes
    (rfc6962LeafHash X body') hashes'

/-- Two proofs of one position to one root are of one body, or end in a collision. -/
theorem recomputeRoot_agree {leafIndex treeSize : UInt64} {body body' : Bytes}
    {hashes hashes' : List (Octets 32)} {root : Octets 32}
    (h : recomputeRoot X (rfc6962LeafHash X body) leafIndex treeSize hashes = some root)
    (h' : recomputeRoot X (rfc6962LeafHash X body') leafIndex treeSize hashes' = some root) :
    (body = body' ∧ hashes = hashes') ∨
      Collision X.sha256 (bodyFork X leafIndex treeSize body hashes body' hashes').1
        (bodyFork X leafIndex treeSize body hashes body' hashes').2 := by
  unfold recomputeRoot at h h'
  split at h
  · cases h
  · rename_i hlt
    rw [if_neg hlt] at h'
    unfold bodyFork
    split
    · -- two bodies, one leaf hash
      rename_i hfork
      exact .inr ((leaf_or_collision hfork.2).resolve_left hfork.1)
    · rename_i hfork
      refine (walkUp_agree h h').imp_left ?_
      rintro ⟨hleaf, rfl⟩
      exact ⟨by_contra fun hbody => hfork ⟨hbody, hleaf⟩, rfl⟩

end Walks

/-! ### Two proofs -/

/-- The siblings of a proof; none where they are not all hashes. -/
def InclusionProof.siblings (proof : InclusionProof) : List (Octets 32) :=
  (proof.hashes.mapM (toOctets 32)).getD []

/-- The place of a leaf and the root it is shown under. -/
structure TreePosition where
  logIndex : UInt64
  treeSize : UInt64
  rootHash : Bytes
  deriving DecidableEq

/-- Where the proof says the entry is, and in which tree. -/
def InclusionProof.position (proof : InclusionProof) : TreePosition :=
  ⟨proof.logIndex, proof.treeSize, proof.rootHash⟩

/-- The place where two proofs come apart. -/
def proofFork (X : Externals) (body : Bytes) (proof : InclusionProof) (body' : Bytes)
    (proof' : InclusionProof) : Bytes × Bytes :=
  bodyFork X proof.logIndex proof.treeSize body proof.siblings body' proof'.siblings

/-- The siblings are the proof's hashes, where these have 32 bytes. -/
theorem siblings_of_hashes_eq {proof : InclusionProof} {hashes : List (Octets 32)}
    (h : proof.hashes = hashes.map Octets.bytes) : proof.siblings = hashes := by
  have hmap : (hashes.map Octets.bytes).mapM (toOctets 32) = some hashes :=
    mapM_map_some fun o _ => toOctets_bytes o
  rw [InclusionProof.siblings, h, hmap]
  rfl

/-- **One position, one body.**  Two accepted proofs for one place under one root are the same
    proof of the same body, or a SHA-256 collision can be computed from the two. -/
theorem includesBody_agree {X : Externals} {body body' : Bytes} {proof proof' : InclusionProof}
    (hposition : proof.position = proof'.position)
    (h : ∃ hashes rootHash, IncludesBody X body proof hashes rootHash)
    (h' : ∃ hashes rootHash, IncludesBody X body' proof' hashes rootHash) :
    (body = body' ∧ proof.hashes = proof'.hashes) ∨
      Collision X.sha256 (proofFork X body proof body' proof').1
        (proofFork X body proof body' proof').2 := by
  obtain ⟨hashes, rootHash, h⟩ := h
  obtain ⟨hashes', rootHash', h'⟩ := h'
  obtain ⟨hindex, hsize, hroot⟩ := TreePosition.mk.inj hposition
  obtain rfl : rootHash = rootHash' :=
    Octets.ext (h.rootHash_eq.symm.trans (hroot.trans h'.rootHash_eq))
  have hwalk' := h'.recomputed
  rw [← hindex, ← hsize] at hwalk'
  unfold proofFork
  rw [siblings_of_hashes_eq h.hashes_eq, siblings_of_hashes_eq h'.hashes_eq]
  refine (recomputeRoot_agree h.recomputed hwalk').imp_left ?_
  rintro ⟨hbody, rfl⟩
  exact ⟨hbody, h.hashes_eq.trans h'.hashes_eq.symm⟩

/-! ### Two verdicts -/

/-- The proof of a bundle's one entry. -/
def Bundle.proof (bundle : Bundle) : Option InclusionProof :=
  bundle.verificationMaterial.tlogEntries.head?.bind (·.inclusionProof)

/-- The body of a bundle's one entry. -/
def Bundle.canonicalizedBody (bundle : Bundle) : Bytes :=
  (bundle.verificationMaterial.tlogEntries.head?.map (·.canonicalizedBody)).getD []

/-- The texts whose hashes two bundles store. -/
def envelopeFork (bundle bundle' : Bundle) : Bytes × Bytes :=
  (utf8 (envelopeJson bundle.dsseEnvelope), utf8 (envelopeJson bundle'.dsseEnvelope))

/-- Two reports on one artefact: what was signed, by whom and under which certificate.  The time
    and index reported are those of the promise, which no tree records. -/
structure SameArtefact (bundle bundle' : Bundle) (report report' : VerificationReport) : Prop where
  payload : bundle.dsseEnvelope.payload = bundle'.dsseEnvelope.payload
  payloadType : bundle.dsseEnvelope.payloadType = bundle'.dsseEnvelope.payloadType
  sig : bundle.dsseEnvelope.signature.sig = bundle'.dsseEnvelope.signature.sig
  certificate : bundle.verificationMaterial.certificate =
    bundle'.verificationMaterial.certificate
  signer : report.signer = report'.signer
  statement : report.statement = report'.statement
  subject : report.subject.digest = report'.subject.digest → report.subject = report'.subject

section Verdicts

variable {X : Externals} {verifier verifier' : Verifier X} {subject subject' : Subject}
  {bundle bundle' : Bundle} {report report' : VerificationReport}

/-- The claims of a leaf are read off it, whichever authority vouched for it. -/
theorem extractClaims_of_leaf {validated validated' : ValidatedLeaf}
    (h : validated.leaf = validated'.leaf) :
    extractClaims X validated = extractClaims X validated' := by
  unfold extractClaims
  rw [h]

/-- A claim set is read in one way, whatever policies it satisfies. -/
theorem Satisfies.unique {policy policy' : GithubPolicy} {claims : FulcioClaims}
    {owner name ref owner' name' ref' : Str} {signer signer' : SignerUriParts}
    (h : Satisfies policy claims owner name ref signer)
    (h' : Satisfies policy' claims owner' name' ref' signer') :
    owner = owner' ∧ name = name' ∧ ref = ref' ∧ signer = signer' := by
  obtain ⟨uri, huri, hrepo⟩ := h.sourceUri
  obtain ⟨uri', huri', hrepo'⟩ := h'.sourceUri
  obtain rfl : uri = uri' := Option.some.inj (huri.symm.trans huri')
  obtain ⟨san, hsan, hsigner⟩ := h.signerUri
  obtain ⟨san', hsan', hsigner'⟩ := h'.signerUri
  obtain rfl : san = san' := Option.some.inj (hsan.symm.trans hsan')
  -- both texts are parsed once
  have hparse : parseGithubRepoUri uri "" = .ok (owner, name) := parseGithubRepoUri_eq_ok.mpr hrepo
  rw [parseGithubRepoUri_eq_ok.mpr hrepo', Except.ok.injEq, Prod.mk.injEq] at hparse
  obtain ⟨rfl, rfl⟩ := hparse
  obtain rfl : signer = signer' := Except.ok.inj
    ((parseSignerSanUri_eq_ok.mpr hsigner).symm.trans (parseSignerSanUri_eq_ok.mpr hsigner'))
  exact ⟨rfl, rfl, Option.some.inj (h.sourceRef.symm.trans h'.sourceRef), rfl⟩

/-- The entry, the body and the log an accepted bundle was accepted with. -/
theorem exists_entryVerified (hok : verifier.verifyDigest subject bundle = .ok report) :
    ∃ entry body log logKey proof checkpoint leaf,
      EntryVerified X bundle verifier.trustStore verifier.checkpointOriginPolicy entry body log
        logKey proof checkpoint leaf ∧
      bundle.proof = some proof ∧ bundle.canonicalizedBody = entry.canonicalizedBody := by
  obtain ⟨statement, matched, entry, leaf, claims, haccepted, -⟩ :=
    Verifier.verifyDigest_eq_ok.mp hok
  obtain ⟨body, log, logKey, proof, checkpoint, h⟩ := haccepted.entry
  refine ⟨entry, body, log, logKey, proof, checkpoint, leaf, h, ?_, ?_⟩
  · simp [Bundle.proof, h.entries, h.proof_eq]
  · simp [Bundle.canonicalizedBody, h.entries]

/-- One stored body is bound to one artefact. -/
theorem sameArtefact_of_canonicalizedBody
    (hok : verifier.verifyDigest subject bundle = .ok report)
    (hok' : verifier'.verifyDigest subject' bundle' = .ok report')
    (hbody : bundle.canonicalizedBody = bundle'.canonicalizedBody) :
    SameArtefact bundle bundle' report report' ∨
      Collision X.sha256 (envelopeFork bundle bundle').1 (envelopeFork bundle bundle').2 := by
  obtain ⟨statement, matched, entry, leaf, claims, haccepted, owner, name, ref, signer, hsatisfies,
    rfl⟩ := Verifier.verifyDigest_eq_ok.mp hok
  obtain ⟨statement', matched', entry', leaf', claims', haccepted', owner', name', ref', signer',
    hsatisfies', rfl⟩ := Verifier.verifyDigest_eq_ok.mp hok'
  obtain ⟨body, log, logKey, proof, checkpoint, h⟩ := haccepted.entry
  obtain ⟨body', log', logKey', proof', checkpoint', h'⟩ := haccepted'.entry
  simp only [Bundle.canonicalizedBody, h.entries, h'.entries, List.head?_cons, Option.map_some,
    Option.getD_some] at hbody
  obtain rfl : body = body' :=
    Except.ok.inj (h.parsed.symm.trans ((congrArg (parseTlogEntryBody X) hbody).trans h'.parsed))
  by_cases hjson : utf8 (envelopeJson bundle.dsseEnvelope) =
      utf8 (envelopeJson bundle'.dsseEnvelope)
  · obtain ⟨hpayload, htype, -, hsig⟩ := envelopeJson_inj (utf8_injective hjson)
    have hcertificate := h.bound.certificate.symm.trans h'.bound.certificate
    -- one payload is one statement, one leaf one set of claims
    obtain rfl : statement = statement' := Except.ok.inj (haccepted.statement.parsed.symm.trans
      ((congrArg (Statement.fromPayload X) hpayload).trans haccepted'.statement.parsed))
    obtain rfl : leaf = leaf' := Option.some.inj (h.decoded.symm.trans
      ((congrArg X.der.certificate hcertificate).trans h'.decoded))
    obtain ⟨validated, hleaf⟩ := haccepted.leaf
    obtain ⟨validated', hleaf'⟩ := haccepted'.leaf
    have hvalidated : validated.leaf = validated'.leaf := by
      obtain ⟨_, _, _, _, ⟨_, _, hanchored⟩, -⟩ := hleaf.anchored
      obtain ⟨_, _, _, _, ⟨_, _, hanchored'⟩, -⟩ := hleaf'.anchored
      exact hanchored.leaf_eq.trans hanchored'.leaf_eq.symm
    obtain rfl : claims = claims' := Except.ok.inj (hleaf.claims.symm.trans
      ((extractClaims_of_leaf hvalidated).trans hleaf'.claims))
    obtain ⟨rfl, rfl, rfl, rfl⟩ := hsatisfies.unique hsatisfies'
    refine .inl ⟨hpayload, htype, hsig, congrArg Certificate.mk hcertificate, ?_, rfl, ?_⟩
    · rfl
    · intro (heq : subject = subject')
      subst heq
      obtain rfl : matched = matched' := Option.some.inj
        ((Statement.findSubject_eq_some_iff.mpr haccepted.statement.subject).symm.trans
          (Statement.findSubject_eq_some_iff.mpr haccepted'.statement.subject))
      rfl
  · -- two envelope texts with the hash the body has
    exact .inr ⟨hjson, h.bound.envelopeHash.symm.trans h'.bound.envelopeHash⟩

/-- The inputs of which one pair collides where two accepted bundles at one position differ. -/
def verdictForks (X : Externals) (bundle bundle' : Bundle) : List (Bytes × Bytes) :=
  (bundle.proof.bind fun proof => bundle'.proof.map fun proof' =>
      proofFork X bundle.canonicalizedBody proof bundle'.canonicalizedBody proof').toList ++
    [envelopeFork bundle bundle']

/-- **No equivocation under one root.**  Two accepted bundles at one position under one root, by
    whatever verifiers, for whatever subjects and with whatever promises, carry one proof and are
    reports on one artefact, or two different inputs with one SHA-256 hash can be computed from
    them. -/
theorem Verifier.verifyDigest_agree
    (hposition : bundle.proof.map (·.position) = bundle'.proof.map (·.position))
    (hok : verifier.verifyDigest subject bundle = .ok report)
    (hok' : verifier'.verifyDigest subject' bundle' = .ok report') :
    (SameArtefact bundle bundle' report report' ∧
        bundle.proof.map (·.hashes) = bundle'.proof.map (·.hashes)) ∨
      ∃ fork ∈ verdictForks X bundle bundle', Collision X.sha256 fork.1 fork.2 := by
  obtain ⟨entry, _, _, _, proof, _, _, h, hproof, hbody⟩ := exists_entryVerified hok
  obtain ⟨entry', _, _, _, proof', _, _, h', hproof', hbody'⟩ := exists_entryVerified hok'
  rw [hproof, hproof', Option.map_some, Option.map_some, Option.some.injEq] at hposition
  rcases includesBody_agree hposition h.included h'.included with ⟨hone, hhashes⟩ | hcollision
  · rcases sameArtefact_of_canonicalizedBody hok hok' (hbody.trans (hone.trans hbody'.symm)) with
      hsame | hcollision
    · exact .inl ⟨hsame, by rw [hproof, hproof', Option.map_some, Option.map_some, hhashes]⟩
    · exact .inr ⟨_, List.mem_append_right _ (List.mem_singleton_self _), hcollision⟩
  · refine .inr ⟨_, List.mem_append_left _ (Option.mem_toList.mpr ?_), hcollision⟩
    rw [hproof, hproof', hbody, hbody']
    rfl

end Verdicts

namespace Specimen

/-- The same place under a later promise, with the lines of the checkpoint the other way round. -/
def republication : Publication :=
  { publication with
    logIndex := 9
    integratedTime := 1704067260
    promise := repromiseSignature
    signatures := [unknownLine, witnessLine, noteLine] }

/-- The log published it in the same tree. -/
theorem honest_republication :
    republication.Honest externals log (.p256 logPoint) canonicalizedBody := by
  refine honest_of rfl rfl honest.root (by decide) ⟨noteLine, by simp [republication], rfl, ?_⟩ ?_
  · simp [signatures, republication, publication, noteLine]
  · simp [signatures, republication]

/-- The verifier accepts the republished entry. -/
theorem accepted_republication :
    verifier.verifyDigest subject (bundleOf republication) = .ok (reportOf republication) :=
  accepted_of honest_republication rfl ⟨by decide, by decide⟩

/-- The two bundles differ, in their promises and in their checkpoints. -/
theorem bundle_ne_republication : bundle ≠ bundleOf republication := by
  intro h
  have hindex : [(7 : UInt64)] = [9] :=
    congrArg (·.verificationMaterial.tlogEntries.map (·.logIndex)) h
  exact absurd hindex (by decide)

end Specimen

/-- Two bundles at one place of the sample's tree agree. -/
theorem Verifier.verifyDigest_agree_specimen :
    Specimen.bundle ≠ Specimen.bundleOf Specimen.republication ∧
      ((SameArtefact Specimen.bundle (Specimen.bundleOf Specimen.republication) Specimen.report
          (Specimen.reportOf Specimen.republication) ∧
        Specimen.bundle.proof.map (·.hashes) =
          (Specimen.bundleOf Specimen.republication).proof.map (·.hashes)) ∨
      ∃ fork ∈ verdictForks Specimen.externals Specimen.bundle
          (Specimen.bundleOf Specimen.republication),
        Collision Specimen.externals.sha256 fork.1 fork.2) :=
  ⟨Specimen.bundle_ne_republication,
    Verifier.verifyDigest_agree rfl Specimen.accepted Specimen.accepted_republication⟩

/-! ### One log, many roots -/

section Histories

variable {X : Externals} {verifier verifier' : Verifier X} {subject subject' : Subject}
  {bundle bundle' : Bundle} {report report' : VerificationReport}

/-- Of two trees the log published, one is the other with leaves added. -/
def LogHistory.AppendOnly (history : LogHistory) : Prop :=
  ∀ head ∈ history.heads, ∀ head' ∈ history.heads,
    head.2 <+: head'.2 ∨ head'.2 <+: head.2

/-- The key the trust store selects for the bundle's entry verifies only what the log signed. -/
def LogHistory.SignsFor (X : Externals) (history : LogHistory) (trustStore : TrustStore)
    (bundle : Bundle) : Prop :=
  ∀ entry ∈ bundle.verificationMaterial.tlogEntries, ∀ log logKey,
    SelectedLog X trustStore entry.logIdKeyId log logKey → ∀ message signature,
      logKey.verifyDer X message signature = true →
        history.Signs X (X.sha256 log.publicKey.rawBytes) message

/-- In a log that only grows, a place holds one leaf. -/
theorem LogHistory.AppendOnly.leaf_unique {history : LogHistory} (h : history.AppendOnly)
    {head head' : Str × List Bytes} (hhead : head ∈ history.heads)
    (hhead' : head' ∈ history.heads) {i : ℕ} {leaf leaf' : Bytes} (hleaf : head.2[i]? = some leaf)
    (hleaf' : head'.2[i]? = some leaf') : leaf = leaf' := by
  have hgrown {xs ys : List Bytes} (hpre : xs <+: ys) {x : Bytes} (hx : xs[i]? = some x) :
      ys[i]? = some x := by
    obtain ⟨rest, rfl⟩ := hpre
    obtain ⟨hi, -⟩ := List.getElem?_eq_some_iff.mp hx
    rw [List.getElem?_append_left hi, hx]
  rcases h head hhead head' hhead' with hpre | hpre
  · exact Option.some.inj ((hgrown hpre hleaf).symm.trans hleaf')
  · exact Option.some.inj (hleaf.symm.trans (hgrown hpre hleaf'))

/-- The published tree an accepted entry is shown in. -/
theorem exists_head_of_entryVerified {history : LogHistory} {trustStore : TrustStore}
    {policy : CheckpointOriginPolicy} {entry : TlogEntry} {body : TlogEntryBody}
    {log : TransparencyLog} {logKey : EcdsaVerifyingKey} {proof : InclusionProof}
    {checkpoint : ParsedCheckpoint} {leaf : X509Certificate}
    (hsigns : history.SignsFor X trustStore bundle)
    (h : EntryVerified X bundle trustStore policy entry body log logKey proof checkpoint leaf) :
    ∃ head ∈ history.heads, head.2[proof.logIndex.toNat]? = some entry.canonicalizedBody ∨
      Collision X.sha256
        (inclusionCollision X head.2 entry.canonicalizedBody proof.logIndex.toNat
          proof.siblings).1
        (inclusionCollision X head.2 entry.canonicalizedBody proof.logIndex.toNat
          proof.siblings).2 := by
  obtain ⟨signature, -, -, hsignature⟩ := h.covered.signed
  obtain ⟨hashes, rootHash, hincluded⟩ := h.included
  obtain ⟨leaves, hpublished, hsize, hroot⟩ := exists_leaves_of_signs h.covered.parsed
    (hsigns entry (by simp [h.entries]) log logKey h.selection _ _ hsignature)
  -- the published root is the one the proof recomputes
  rw [h.covered.treeSize_eq] at hsize
  rw [h.covered.rootHash_eq, hincluded.rootHash_eq] at hroot
  have hrecomputed := hincluded.recomputed
  rw [Octets.ext hroot] at hrecomputed
  refine ⟨_, hpublished, ?_⟩
  rw [siblings_of_hashes_eq hincluded.hashes_eq]
  exact (recomputeRoot_sound hsize.symm hrecomputed).2

/-- The inputs of which one pair collides where two accepted bundles at one place of a growing log
    differ. -/
def historyForks (X : Externals) (bundle bundle' : Bundle) (leaves leaves' : List Bytes) :
    List (Bytes × Bytes) :=
  let fork (bundle : Bundle) (leaves : List Bytes) : List (Bytes × Bytes) :=
    (bundle.proof.map fun proof => inclusionCollision X leaves bundle.canonicalizedBody
      proof.logIndex.toNat proof.siblings).toList
  fork bundle leaves ++ fork bundle' leaves' ++ [envelopeFork bundle bundle']

/-- **No equivocation across roots.**  Where the log only ever appends, two accepted bundles at one
    place are reports on one artefact whatever tree sizes and roots they were shown under, or
    there is a SHA-256 collision at known inputs. -/
theorem Verifier.verifyDigest_agree_of_appendOnly {history : LogHistory}
    (hgrows : history.AppendOnly) (hsigns : history.SignsFor X verifier.trustStore bundle)
    (hsigns' : history.SignsFor X verifier'.trustStore bundle')
    (hplace : bundle.proof.map (·.logIndex) = bundle'.proof.map (·.logIndex))
    (hok : verifier.verifyDigest subject bundle = .ok report)
    (hok' : verifier'.verifyDigest subject' bundle' = .ok report') :
    ∃ head ∈ history.heads, ∃ head' ∈ history.heads,
      SameArtefact bundle bundle' report report' ∨
        ∃ fork ∈ historyForks X bundle bundle' head.2 head'.2,
          Collision X.sha256 fork.1 fork.2 := by
  obtain ⟨entry, _, _, _, proof, _, _, h, hproof, hbody⟩ := exists_entryVerified hok
  obtain ⟨entry', _, _, _, proof', _, _, h', hproof', hbody'⟩ := exists_entryVerified hok'
  rw [hproof, hproof', Option.map_some, Option.map_some, Option.some.injEq] at hplace
  obtain ⟨head, hhead, hleaf⟩ := exists_head_of_entryVerified hsigns h
  obtain ⟨head', hhead', hleaf'⟩ := exists_head_of_entryVerified hsigns' h'
  refine ⟨head, hhead, head', hhead', ?_⟩
  have hforks : historyForks X bundle bundle' head.2 head'.2 =
      [inclusionCollision X head.2 entry.canonicalizedBody proof.logIndex.toNat proof.siblings,
        inclusionCollision X head'.2 entry'.canonicalizedBody proof'.logIndex.toNat proof'.siblings,
        envelopeFork bundle bundle'] := by
    simp [historyForks, hproof, hproof', hbody, hbody']
  rw [hforks]
  rcases hleaf with hleaf | hcollision
  · rcases hleaf' with hleaf' | hcollision
    · rw [← hplace] at hleaf'
      have hone := hgrows.leaf_unique hhead hhead' hleaf hleaf'
      refine (sameArtefact_of_canonicalizedBody hok hok'
        (hbody.trans (hone.trans hbody'.symm))).imp_right fun hcollision => ?_
      exact ⟨_, by simp, hcollision⟩
    · exact .inr ⟨_, by simp, hcollision⟩
  · exact .inr ⟨_, by simp, hcollision⟩

end Histories

namespace Specimen

/-- The body as the last of two leaves, before the third came in. -/
def earlier : Publication :=
  { publication with
    leaves := [earlierBody, canonicalizedBody]
    note := noteOver 2 earlierRoot
    signatures := [earlierNoteLine] }

/-- The log published it when the tree had two leaves. -/
theorem honest_earlier : earlier.Honest externals log (.p256 logPoint) canonicalizedBody := by
  refine honest_of rfl rfl ?_ (by decide) ⟨earlierNoteLine, by simp [earlier], rfl, ?_⟩ ?_
  · rw [earlier, mth_earlier]
    rfl
  · simp [signatures, earlier, earlierNoteLine]
  · simp [signatures, earlier, publication]

/-- The verifier accepts it, over the earlier head. -/
theorem accepted_earlier :
    verifier.verifyDigest subject (bundleOf earlier) = .ok (reportOf earlier) :=
  accepted_of honest_earlier rfl ⟨by decide, by decide⟩

/-- What the log of the sample signed: one body promised twice, and two tree heads. -/
def history : LogHistory :=
  ⟨{(canonicalizedBody, 1704067205, 7), (canonicalizedBody, 1704067260, 9)},
    {((noteOver 3 rootHash).noteBody, publication.leaves),
      ((noteOver 2 earlierRoot).noteBody, earlier.leaves)}⟩

/-- The earlier tree is the beginning of the later one. -/
theorem appendOnly_history : history.AppendOnly := by
  have hprefix : earlier.leaves <+: publication.leaves := ⟨[laterBody], rfl⟩
  rintro _ (rfl | rfl) _ (rfl | rfl)
  · exact .inl List.prefix_rfl
  · exact .inr hprefix
  · exact .inl hprefix
  · exact .inl List.prefix_rfl

/-- The text of a publication's checkpoint is the head of its tree. -/
theorem isTreeHead_of {p : Publication}
    (h : p.Honest externals log (.p256 logPoint) canonicalizedBody) :
    IsTreeHead externals p.note.noteBody p.leaves :=
  ⟨_, p.checkpoint, (checkpointSigned_proof h).parsed, rfl, h.size, h.root⟩

/-- The log's key signs what the history says and no more. -/
theorem signsFor_history (p : Publication) :
    history.SignsFor externals trustStore (bundleOf p) := by
  intro entry hentry log' logKey hselected message signature hverify
  -- the one log of the trust store, with its one key
  obtain rfl : log = log' := by
    have hmem := List.mem_of_find?_eq_some hselected.selected
    exact (List.mem_singleton.mp hmem).symm
  obtain rfl : logKey = .p256 logPoint :=
    Except.ok.inj (hselected.key.symm.trans fromSpkiDer_logSpki)
  have hne : logPoint ≠ point := by decide
  have hmem := verifyDer_iff.mp hverify
  simp only [signatures, List.mem_cons, Prod.mk.injEq, hne, false_and, false_or, true_and,
    List.not_mem_nil, or_false] at hmem
  rw [show log.publicKey.rawBytes = logSpki from rfl, sha256_logSpki]
  -- two promises and two heads are all it made
  rcases hmem with ⟨rfl, -⟩ | ⟨rfl, -⟩ | ⟨rfl, -⟩ | ⟨rfl, -⟩
  · exact .promise (.inl rfl)
  · exact .promise (.inr rfl)
  · exact .head (.inl rfl) (isTreeHead_of honest)
  · exact .head (.inr rfl) (isTreeHead_of honest_earlier)

end Specimen

/-- Two bundles at one place of the sample's log agree, though shown in trees of two and of three
    leaves. -/
theorem Verifier.verifyDigest_agree_of_appendOnly_specimen :
    ∃ head ∈ Specimen.history.heads, ∃ head' ∈ Specimen.history.heads,
      SameArtefact Specimen.bundle (Specimen.bundleOf Specimen.earlier) Specimen.report
          (Specimen.reportOf Specimen.earlier) ∨
        ∃ fork ∈ historyForks Specimen.externals Specimen.bundle
            (Specimen.bundleOf Specimen.earlier) head.2 head'.2,
          Collision Specimen.externals.sha256 fork.1 fork.2 :=
  Verifier.verifyDigest_agree_of_appendOnly Specimen.appendOnly_history
    (Specimen.signsFor_history _) (Specimen.signsFor_history _) rfl Specimen.accepted
    Specimen.accepted_earlier

end AttestationVerify
