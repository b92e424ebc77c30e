import AttestationVerify.Rekor.Verify
import AttestationVerify.Sct
import AttestationVerify.Wire.FirstMatch

namespace AttestationVerify

open Wire

/-!
# The order of the logs

Both kinds of log are selected by the first match of a key id, and only then is the one selected
held against its own window.  A key that is listed twice is used in the listing that comes first.

* `EntryStands`, `LogAdmits` — the checks of an entry without and with the selected log;
* `orderIrrelevant_iff` — the trust stores, bundles and leaves to which the order makes no
  difference;
* `not_orderIrrelevant_relisted` — a key listed for two periods.
-/

variable {X : Externals}

/-- What only one pair can satisfy holds of some pair when it holds of that one. -/
theorem exists_pair_iff {α β : Type} {P Q : α → β → Prop} {a : α} {b : β} (h : P a b)
    (hunique : ∀ a' b', P a' b' → a' = a ∧ b' = b) :
    (∃ a' b', P a' b' ∧ Q a' b') ↔ Q a b := by
  constructor
  · intro hpair
    obtain ⟨a', b', h', hq⟩ := hpair
    obtain ⟨rfl, rfl⟩ := hunique a' b' h'
    exact hq
  · intro hq
    exact ⟨a, b, h, hq⟩

/-! ### Entries -/

/-- The checks of a bundle's entry that look at no log. -/
structure EntryStands (X : Externals) (bundle : Bundle) (tlogEntry : TlogEntry)
    (proof : InclusionProof) : Prop where
  entries : bundle.verificationMaterial.tlogEntries = [tlogEntry]
  bound : ∃ body, parseTlogEntryBody X tlogEntry.canonicalizedBody = .ok body ∧
    EntryBound X tlogEntry body bundle.dsseEnvelope
      bundle.verificationMaterial.certificate.rawBytes
  proof_eq : tlogEntry.inclusionProof = some proof
  included : ∃ hashes rootHash, IncludesBody X tlogEntry.canonicalizedBody proof hashes rootHash
  leaf : ∃ leaf spkiDer key,
    X.der.certificate bundle.verificationMaterial.certificate.rawBytes = some leaf ∧
    leaf.tbsCertificate.spkiDer = some spkiDer ∧
    EcdsaVerifyingKey.fromSpkiDer X spkiDer = .ok key ∧
    WithinCertificate leaf tlogEntry.integratedTime.toNat

/-- The checks made with one listing of a log: its key's, and those of its own checkpoint hint and
    window. -/
structure LogAdmits (X : Externals) (policy : CheckpointOriginPolicy) (proof : InclusionProof)
    (tlogEntry : TlogEntry) (log : TransparencyLog) : Prop where
  keyed : ∃ logKey, EcdsaVerifyingKey.fromSpkiDer X log.publicKey.rawBytes = .ok logKey ∧
    Promised X tlogEntry log logKey ∧
    ∃ checkpoint, CheckpointSigned X proof.checkpoint.envelope proof.treeSize proof.rootHash log
      logKey checkpoint ∧
      ∃ binding ∈ policy.bindings, binding.keyId = X.sha256 log.publicKey.rawBytes ∧
        checkpoint.origin ∈ binding.origins
  window : withinValidFor tlogEntry.integratedTime.toNat log.publicKey.validFor

/-- The key id a transparency log is selected by. -/
def tlogKeyId (X : Externals) (log : TransparencyLog) : Bytes :=
  (X.sha256 log.publicKey.rawBytes).bytes

/-- A bundle has one entry with one proof. -/
theorem EntryStands.unique {bundle : Bundle} {tlogEntry tlogEntry' : TlogEntry}
    {proof proof' : InclusionProof} (h : EntryStands X bundle tlogEntry proof)
    (h' : EntryStands X bundle tlogEntry' proof') : tlogEntry = tlogEntry' ∧ proof = proof' := by
  obtain rfl : tlogEntry = tlogEntry' := by simpa using h.entries.symm.trans h'.entries
  exact ⟨rfl, Option.some.inj (h.proof_eq.symm.trans h'.proof_eq)⟩

/-- An entry is accepted when the first log of its key admits it. -/
theorem verifyTlogEntry_accepts_iff {bundle : Bundle} {trustStore : TrustStore}
    {policy : CheckpointOriginPolicy} :
    (∃ timestamp, verifyTlogEntry X bundle trustStore policy = .ok timestamp) ↔
      ∃ tlogEntry proof, EntryStands X bundle tlogEntry proof ∧
        FirstMatch.Serves (tlogKeyId X) TlogEntry.logIdKeyId (LogAdmits X policy proof)
          [tlogEntry] trustStore.tlogs := by
  simp only [verifyTlogEntry_eq_ok]
  constructor
  · intro haccepted
    obtain ⟨_, tlogEntry, body, log, logKey, proof, checkpoint, leaf, h, -⟩ := haccepted
    obtain ⟨spkiDer, key, hspki, hkey⟩ := h.leafKey
    exact ⟨tlogEntry, proof,
      { entries := h.entries
        bound := ⟨body, h.parsed, h.bound⟩
        proof_eq := h.proof_eq
        included := h.included
        leaf := ⟨leaf, spkiDer, key, h.decoded, hspki, hkey, h.leafWindow⟩ },
      tlogEntry, List.mem_singleton_self _, log, h.selection.selected,
      ⟨logKey, h.selection.key, h.promised, checkpoint, h.covered, h.origin⟩, h.logWindow⟩
  · intro h
    obtain ⟨tlogEntry, proof, hstands, e, he, log, hselected, hadmits⟩ := h
    obtain rfl := List.mem_singleton.mp he
    obtain ⟨body, hparsed, hbound⟩ := hstands.bound
    obtain ⟨leaf, spkiDer, key, hdecoded, hspki, hkey, hwindow⟩ := hstands.leaf
    obtain ⟨logKey, hlogKey, hpromised, checkpoint, hcovered, horigin⟩ := hadmits.keyed
    exact ⟨_, e, body, log, logKey, proof, checkpoint, leaf,
      { entries := hstands.entries
        parsed := hparsed
        bound := hbound
        selection := ⟨hselected, hlogKey⟩
        promised := hpromised
        proof_eq := hstands.proof_eq
        included := hstands.included
        covered := hcovered
        origin := horigin
        decoded := hdecoded
        leafKey := ⟨spkiDer, key, hspki, hkey⟩
        logWindow := hadmits.window
        leafWindow := hwindow }, rfl⟩

/-- The listings of the entry's key admit it all or none. -/
def TlogsAgree (X : Externals) (trustStore : TrustStore) (policy : CheckpointOriginPolicy)
    (bundle : Bundle) : Prop :=
  ∀ tlogEntry proof, EntryStands X bundle tlogEntry proof →
    ∀ log ∈ trustStore.tlogs, tlogKeyId X log = tlogEntry.logIdKeyId →
      ∀ log' ∈ trustStore.tlogs, tlogKeyId X log' = tlogEntry.logIdKeyId →
        LogAdmits X policy proof tlogEntry log → LogAdmits X policy proof tlogEntry log'

/-- The list of trusted logs matters to no bundle in which the listings of the entry's key agree. -/
theorem tlogs_perm_iff {trustStore : TrustStore} {policy : CheckpointOriginPolicy}
    {bundle : Bundle} :
    (∀ tlogs, tlogs.Perm trustStore.tlogs →
      ((∃ timestamp, verifyTlogEntry X bundle { trustStore with tlogs := tlogs } policy =
          .ok timestamp) ↔
        ∃ timestamp, verifyTlogEntry X bundle trustStore policy = .ok timestamp)) ↔
      TlogsAgree X trustStore policy bundle := by
  simp only [verifyTlogEntry_accepts_iff]
  by_cases hstands : ∃ tlogEntry proof, EntryStands X bundle tlogEntry proof
  · obtain ⟨tlogEntry, proof, hstands⟩ := hstands
    -- the entry and its proof are the bundle's own, whatever the order of the logs
    have hunique (tlogs : List TransparencyLog) :
        (∃ e p, EntryStands X bundle e p ∧ FirstMatch.Serves (tlogKeyId X) TlogEntry.logIdKeyId
          (LogAdmits X policy p) [e] tlogs) ↔
        FirstMatch.Serves (tlogKeyId X) TlogEntry.logIdKeyId (LogAdmits X policy proof)
          [tlogEntry] tlogs :=
      exists_pair_iff hstands fun e p h => h.unique hstands
    simp only [hunique]
    refine FirstMatch.serves_perm_iff.trans ?_
    constructor
    · intro h e p hep log hlog hkey log' hlog' hkey' hadmits
      obtain ⟨rfl, rfl⟩ := hep.unique hstands
      -- either no listing admits the entry, or the key listed is the entry's
      rcases h with hnone | ⟨k, ⟨x, hx, rfl⟩, hall⟩
      · exact absurd hadmits (hnone _ (List.mem_singleton_self _) log hlog hkey)
      · obtain ⟨r, hr, hwant, -⟩ := hall x hx rfl
        obtain rfl := List.mem_singleton.mp hr
        obtain ⟨r', hr', -, hadmits'⟩ := hall log' hlog' (hkey'.trans hwant)
        obtain rfl := List.mem_singleton.mp hr'
        exact hadmits'
    · intro h
      -- if one listing of its key admits the entry, they all do
      by_cases hnone : ∀ log ∈ trustStore.tlogs, tlogKeyId X log = tlogEntry.logIdKeyId →
          ¬ LogAdmits X policy proof tlogEntry log
      · left
        intro r hr
        obtain rfl := List.mem_singleton.mp hr
        exact hnone
      · push Not at hnone
        obtain ⟨log, hlog, hkey, hadmits⟩ := hnone
        refine .inr ⟨tlogEntry.logIdKeyId, ⟨log, hlog, hkey⟩, ?_⟩
        intro log' hlog' hkey'
        exact ⟨tlogEntry, List.mem_singleton_self _, rfl,
          h tlogEntry proof hstands log hlog hkey log' hlog' hkey' hadmits⟩
  · have hnone (e : TlogEntry) (p : InclusionProof) : ¬ EntryStands X bundle e p :=
      fun h => hstands ⟨e, p, h⟩
    simp [hnone, TlogsAgree]

/-! ### SCTs -/

/-- The key id a CT log is selected by. -/
def ctlogKeyId (X : Externals) (log : CtLog) : Octets 32 := X.sha256 log.publicKey.rawBytes

/-- What the leaf itself supplies to the check: its SCTs and what they are to sign. -/
structure CarriesScts (X : Externals) (validated : ValidatedLeaf) (scts : List ParsedSct)
    (precertTbs : Bytes) : Prop where
  list : ∃ sctListBytes, extractSctListBytes X validated.leaf.tbsCertificate = .ok sctListBytes ∧
    parseSctList sctListBytes = .ok scts
  precert : ∃ tbsDer, validated.leaf.tbsCertificate.der = some tbsDer ∧
    precertTbsDer X tbsDer = .ok precertTbs

/-- A leaf has one list of SCTs and one precertificate. -/
theorem CarriesScts.unique {validated : ValidatedLeaf} {scts scts' : List ParsedSct}
    {precertTbs precertTbs' : Bytes} (h : CarriesScts X validated scts precertTbs)
    (h' : CarriesScts X validated scts' precertTbs') : scts = scts' ∧ precertTbs = precertTbs' := by
  obtain ⟨bytes, hbytes, hscts⟩ := h.list
  obtain ⟨bytes', hbytes', hscts'⟩ := h'.list
  obtain ⟨tbsDer, htbs, hprecert⟩ := h.precert
  obtain ⟨tbsDer', htbs', hprecert'⟩ := h'.precert
  obtain rfl := Except.ok.inj (hbytes.symm.trans hbytes')
  obtain rfl := Option.some.inj (htbs.symm.trans htbs')
  exact ⟨Except.ok.inj (hscts.symm.trans hscts'), Except.ok.inj (hprecert.symm.trans hprecert')⟩

/-- `log` signed `sct` for the leaf's precertificate. -/
def SignedFor (X : Externals) (validated : ValidatedLeaf) (precertTbs : Bytes) (sct : ParsedSct)
    (log : CtLog) : Prop :=
  SctSigned X sct precertTbs (X.sha256 validated.issuerSpkiDer) log

/-- A leaf is accepted when some SCT was signed by the first log of its key. -/
theorem verifyEmbeddedScts_accepts_iff {validated : ValidatedLeaf} {trustStore : TrustStore} :
    verifyEmbeddedScts X validated trustStore = .ok () ↔
      ∃ scts precertTbs, CarriesScts X validated scts precertTbs ∧
        FirstMatch.Serves (ctlogKeyId X) ParsedSct.logId (SignedFor X validated precertTbs) scts
          trustStore.ctlogs := by
  rw [verifyEmbeddedScts_eq_ok]
  constructor
  · intro ⟨sctListBytes, scts, tbsDer, precertTbs, hbytes, hscts, htbs, hprecert, h⟩
    exact ⟨scts, precertTbs, ⟨⟨sctListBytes, hbytes, hscts⟩, ⟨tbsDer, htbs, hprecert⟩⟩, h⟩
  · intro ⟨scts, precertTbs, ⟨⟨sctListBytes, hbytes, hscts⟩, ⟨tbsDer, htbs, hprecert⟩⟩, h⟩
    exact ⟨sctListBytes, scts, tbsDer, precertTbs, hbytes, hscts, htbs, hprecert, h⟩

/-- Either no listing of a log signed an SCT of its key, or there is a listed key each listing of
    which signed one. -/
def CtlogsAgree (X : Externals) (trustStore : TrustStore) (validated : ValidatedLeaf) : Prop :=
  ∀ scts precertTbs, CarriesScts X validated scts precertTbs →
    (∀ sct ∈ scts, ∀ log ∈ trustStore.ctlogs, ctlogKeyId X log = sct.logId →
      ¬ SignedFor X validated precertTbs sct log) ∨
    ∃ keyId, (∃ log ∈ trustStore.ctlogs, ctlogKeyId X log = keyId) ∧
      ∀ log ∈ trustStore.ctlogs, ctlogKeyId X log = keyId →
        ∃ sct ∈ scts, sct.logId = keyId ∧ SignedFor X validated precertTbs sct log

/-- The order of the CT logs decides nothing exactly when it selects alike. -/
theorem ctlogs_perm_iff {trustStore : TrustStore} {validated : ValidatedLeaf} :
    (∀ ctlogs, ctlogs.Perm trustStore.ctlogs →
      (verifyEmbeddedScts X validated { trustStore with ctlogs := ctlogs } = .ok () ↔
        verifyEmbeddedScts X validated trustStore = .ok ())) ↔
      CtlogsAgree X trustStore validated := by
  simp only [verifyEmbeddedScts_accepts_iff]
  by_cases hcarries : ∃ scts precertTbs, CarriesScts X validated scts precertTbs
  · obtain ⟨scts, precertTbs, hcarries⟩ := hcarries
    -- the SCTs and what they sign are the leaf's own
    have hunique (ctlogs : List CtLog) :
        (∃ s p, CarriesScts X validated s p ∧ FirstMatch.Serves (ctlogKeyId X) ParsedSct.logId
          (SignedFor X validated p) s ctlogs) ↔
        FirstMatch.Serves (ctlogKeyId X) ParsedSct.logId (SignedFor X validated precertTbs) scts
          ctlogs :=
      exists_pair_iff hcarries fun s p h => h.unique hcarries
    simp only [hunique]
    refine FirstMatch.serves_perm_iff.trans ?_
    constructor
    · intro h s p hsp
      obtain ⟨rfl, rfl⟩ := hsp.unique hcarries
      exact h
    · intro h
      exact h scts precertTbs hcarries
  · have hnone (s : List ParsedSct) (p : Bytes) : ¬ CarriesScts X validated s p :=
      fun h => hcarries ⟨s, p, h⟩
    simp [hnone, CtlogsAgree]

/-! ### Both lists -/

/-- Neither check tells one order of the logs from another. -/
def OrderIrrelevant (X : Externals) (trustStore : TrustStore) (policy : CheckpointOriginPolicy)
    (bundle : Bundle) (validated : ValidatedLeaf) : Prop :=
  ∀ tlogs ctlogs, tlogs.Perm trustStore.tlogs → ctlogs.Perm trustStore.ctlogs →
    ((∃ timestamp, verifyTlogEntry X bundle
        { trustStore with tlogs := tlogs, ctlogs := ctlogs } policy = .ok timestamp) ↔
      ∃ timestamp, verifyTlogEntry X bundle trustStore policy = .ok timestamp) ∧
    (verifyEmbeddedScts X validated { trustStore with tlogs := tlogs, ctlogs := ctlogs } = .ok () ↔
      verifyEmbeddedScts X validated trustStore = .ok ())

/-- **When the order of the logs is irrelevant**: where every listing of the entry's key admits the
    entry or none does, and every listing of some key signed an SCT or none of any key did. -/
theorem orderIrrelevant_iff {trustStore : TrustStore} {policy : CheckpointOriginPolicy}
    {bundle : Bundle} {validated : ValidatedLeaf} :
    OrderIrrelevant X trustStore policy bundle validated ↔
      TlogsAgree X trustStore policy bundle ∧ CtlogsAgree X trustStore validated := by
  rw [← tlogs_perm_iff, ← ctlogs_perm_iff]
  constructor
  · intro h
    refine ⟨fun tlogs hperm => ?_, fun ctlogs hperm => ?_⟩
    · exact (h tlogs trustStore.ctlogs hperm (.refl _)).1
    · exact (h trustStore.tlogs ctlogs (.refl _) hperm).2
  · -- each check reads only its own list
    intro ⟨htlogs, hctlogs⟩ tlogs ctlogs htperm hctperm
    refine ⟨htlogs tlogs htperm, ?_⟩
    have hctlogs := hctlogs ctlogs hctperm
    rw [verifyEmbeddedScts_accepts_iff] at hctlogs ⊢
    exact hctlogs

namespace Sample

/-- **A log listed twice.**  Its key is listed for two periods, the entry falls in the second: it is
    accepted when that listing comes first, and rejected when the other does. -/
theorem not_orderIrrelevant_relisted :
    ¬ OrderIrrelevant (externals canonicalizedBody)
      (trustStore [log ⟨0, some 1700000000⟩, log ⟨1700000000, none⟩]) policy
      (bundle canonicalizedBody) ⟨leaf, (leafDer.drop 57).take 91, logSpki, 1⟩ := by
  have hselected (w : ValidityPeriod) (rest : List TransparencyLog) :
      selectLog (externals canonicalizedBody) (trustStore (log w :: rest)) logKeyId.bytes =
        some (log w) := by
    simp [selectLog, trustStore, log, sha256_logSpki]
  intro h
  have hswap := (h [log ⟨1700000000, none⟩, log ⟨0, some 1700000000⟩] [] (.swap _ _ _)
    (.refl _)).1
  -- accepted with the second period first
  have haccepted := verifyTlogEntry_eq canonicalizedBody_ne
    (hselected ⟨1700000000, none⟩ [log ⟨0, some 1700000000⟩]) ⟨by decide, by simp⟩
  obtain ⟨timestamp, hok⟩ := hswap.mp ⟨_, haccepted⟩
  obtain ⟨entry, _, log', _, _, _, _, hverified, -⟩ := verifyTlogEntry_eq_ok.mp hok
  obtain rfl : tlogEntry canonicalizedBody = entry := by
    have hentries := hverified.entries
    simpa [bundle] using hentries
  obtain rfl : log ⟨0, some 1700000000⟩ = log' :=
    Option.some.inj ((hselected _ _).symm.trans hverified.selection.selected)
  exact absurd (hverified.logWindow.2 _ rfl) (by decide)

end Sample

end AttestationVerify
