import AttestationVerify.Precert
import AttestationVerify.SctCodec

namespace AttestationVerify

open Wire Wire.Asn1 Wire.Cursor

/-!
# SCT lists with foreign entries

A `SignedCertificateTimestampList` puts every entry under a length of its own, so that a reader can
step over one whose inside it does not know.  The parser of `sct.rs` reads the inside of every
entry before any of them is verified.

* `frameList` — a list of entries, each under its length, whatever is in them;
* `parseSctList_frameList` — the list parses exactly when all its entries do;
* `verifyEmbeddedScts_iff_layout` — so one entry that verifies is enough only beside entries that
  are laid out as an SCT.
-/

/-! ### Framing -/

/-- An entry under its length. -/
def framed (entry : Bytes) : Bytes := toBeBytes 2 entry.length ++ entry

/-- The entries one after the other, under the length of them all. -/
def frameList (entries : List Bytes) : Bytes := framed (entries.flatMap framed)

/-- Every length of the list fits its prefix. -/
structure WellFramed (entries : List Bytes) : Prop where
  items : ∀ entry ∈ entries, entry.length < 2 ^ 16
  total : (entries.flatMap framed).length < 2 ^ 16

/-- A framed entry is at least its length. -/
theorem framed_ne_nil (entry : Bytes) : framed entry ≠ [] := by
  intro h
  have hlength := congrArg List.length h
  rw [framed, List.length_append, length_toBeBytes, List.length_nil] at hlength
  omega

/-- The framing says what the entries are, without a look inside them. -/
theorem frameList_inj {entries entries' : List Bytes} (h : WellFramed entries)
    (h' : WellFramed entries') (heq : frameList entries = frameList entries') :
    entries = entries' := by
  have hwhole : framed (entries.flatMap framed) ++ [] = framed (entries'.flatMap framed) ++ [] := by
    rw [List.append_nil, List.append_nil]
    exact heq
  -- first the length of them all, then entry by entry
  obtain ⟨hflat, -⟩ := decodes_takeVector.append_inj h.total h'.total hwhole
  exact decodes_takeVector.flatMap_inj framed_ne_nil h.items h'.items hflat

/-- A list of SCTs is a list of framed entries. -/
theorem encodeScts_eq_flatMap (scts : List ParsedSct) :
    encodeScts scts = (scts.map encodeSct).flatMap framed := by
  rw [List.flatMap_map]
  rfl

/-- The list under its own length is a framed list of those entries. -/
theorem encodeSctList_eq_frameList (scts : List ParsedSct) :
    encodeSctList scts = frameList (scts.map encodeSct) := by
  rw [encodeSctList, encodeScts_eq_flatMap]
  rfl

/-- The SCTs fit when each does and the frames do. -/
theorem fitsPrefixes_iff {scts : List ParsedSct} :
    FitsPrefixes scts ↔ (∀ sct ∈ scts, sct.Fits) ∧ WellFramed (scts.map encodeSct) := by
  constructor
  · intro h
    refine ⟨h.fields, List.forall_mem_map.mpr h.items, ?_⟩
    rw [← encodeScts_eq_flatMap]
    exact h.total
  · intro h
    refine ⟨h.1, List.forall_mem_map.mp h.2.items, ?_⟩
    rw [encodeScts_eq_flatMap]
    exact h.2.total

/-! ### The layout of an entry -/

/-- The entry has the fields of an SCT and nothing else, whatever version it gives. -/
def HasSctLayout (entry : Bytes) : Prop := ∃ sct : ParsedSct, sct.Fits ∧ entry = encodeSct sct

/-- Different SCTs are written differently. -/
theorem encodeSct_inj {sct sct' : ParsedSct} (h : sct.Fits) (h' : sct'.Fits)
    (heq : encodeSct sct = encodeSct sct') : sct = sct' := by
  -- both are what the parser reads from the one entry
  have hleft := parseSingleSct_eq_ok.mpr ⟨h, rfl⟩
  have hright := parseSingleSct_eq_ok.mpr ⟨h', heq⟩
  rw [hleft] at hright
  exact Except.ok.inj hright

/-- Entries that all have the layout are written SCTs. -/
theorem forall_hasSctLayout_iff {entries : List Bytes} :
    (∀ entry ∈ entries, HasSctLayout entry) ↔
      ∃ scts : List ParsedSct, (∀ sct ∈ scts, sct.Fits) ∧ scts.map encodeSct = entries := by
  constructor
  · intro h
    induction entries with
    | nil => exact ⟨[], by simp, rfl⟩
    | cons entry entries ih =>
      obtain ⟨⟨sct, hfits, rfl⟩, hentries⟩ := List.forall_mem_cons.mp h
      obtain ⟨scts, hscts, rfl⟩ := ih hentries
      exact ⟨sct :: scts, List.forall_mem_cons.mpr ⟨hfits, hscts⟩, rfl⟩
  · intro h
    obtain ⟨scts, hscts, rfl⟩ := h
    intro entry hentry
    obtain ⟨sct, hsct, rfl⟩ := List.mem_map.mp hentry
    exact ⟨sct, hscts sct hsct, rfl⟩

/-- The parser needs the layout of every entry. -/
theorem parseSctList_frameList {entries : List Bytes} {scts : List ParsedSct}
    (h : WellFramed entries) :
    parseSctList (frameList entries) = .ok scts ↔
      (∀ sct ∈ scts, sct.Fits) ∧ scts.map encodeSct = entries := by
  rw [parseSctList_eq_ok, encodeSctList_eq_frameList, fitsPrefixes_iff]
  constructor
  · intro hparse
    obtain ⟨⟨hfields, hframed⟩, heq⟩ := hparse
    exact ⟨hfields, frameList_inj hframed h heq⟩
  · intro hentries
    obtain ⟨hfields, rfl⟩ := hentries
    exact ⟨⟨hfields, h⟩, rfl⟩

/-! ### One good entry -/

section Leaf

variable {X : Externals} {validated : ValidatedLeaf} {trustStore : TrustStore}
  {entries : List Bytes}

/-- The leaf's SCT list is framed as it should be, and one of its entries is an SCT that
    verifies. -/
structure HasGoodEntry (X : Externals) (validated : ValidatedLeaf) (trustStore : TrustStore)
    (entries : List Bytes) : Prop where
  wellFramed : WellFramed entries
  list : extractSctListBytes X validated.leaf.tbsCertificate = .ok (frameList entries)
  good : ∃ tbsDer precertTbs sct, validated.leaf.tbsCertificate.der = some tbsDer ∧
    precertTbsDer X tbsDer = .ok precertTbs ∧ (sct.Fits ∧ encodeSct sct ∈ entries) ∧
    verifyOneSct X sct precertTbs (X.sha256 validated.issuerSpkiDer) trustStore = .ok ()

/-- An entry of another layout fails the whole list, before any other entry is looked at. -/
theorem verifyEmbeddedScts_of_not_layout {entry : Bytes} (h : WellFramed entries)
    (hlist : extractSctListBytes X validated.leaf.tbsCertificate = .ok (frameList entries))
    (hmem : entry ∈ entries) (hentry : ¬ HasSctLayout entry) :
    verifyEmbeddedScts X validated trustStore = .error sctInvalid := by
  have hparse : parseSctList (frameList entries) = .error sctInvalid := by
    cases hresult : parseSctList (frameList entries) with
    | ok scts =>
      have hscts := (parseSctList_frameList h).mp hresult
      exact absurd (forall_hasSctLayout_iff.mpr ⟨scts, hscts⟩ entry hmem) hentry
    -- the parser has no other error
    | error e => rw [failsWith_parseSctList _ e hresult]
  unfold verifyEmbeddedScts
  dsimp only
  rw [hlist, ok_bind, hparse, error_bind]

/-- **When one good SCT suffices.**  A leaf with one SCT that verifies is accepted exactly when
    every entry of its list, of whatever version, is laid out as an SCT. -/
theorem verifyEmbeddedScts_iff_layout (h : HasGoodEntry X validated trustStore entries) :
    verifyEmbeddedScts X validated trustStore = .ok () ↔
      ∀ entry ∈ entries, HasSctLayout entry := by
  constructor
  · intro hok entry hmem
    by_contra hentry
    have herror : verifyEmbeddedScts X validated trustStore = .error sctInvalid :=
      verifyEmbeddedScts_of_not_layout h.wellFramed h.list hmem hentry
    rw [herror] at hok
    cases hok
  · intro hlayout
    obtain ⟨scts, hfields, hscts⟩ := forall_hasSctLayout_iff.mp hlayout
    obtain ⟨tbsDer, precertTbs, sct, htbs, hprecert, ⟨hfits, hmem⟩, hverify⟩ := h.good
    -- The good entry is the encoding of one of the parsed SCTs, and of no other SCT.
    rw [← hscts] at hmem
    obtain ⟨sct', hsct', heq⟩ := List.mem_map.mp hmem
    obtain rfl : sct' = sct := encodeSct_inj (hfields sct' hsct') hfits heq
    have hparse := (parseSctList_frameList h.wellFramed).mpr ⟨hfields, hscts⟩
    apply verifyEmbeddedScts_eq_ok.mpr
    exact ⟨_, scts, tbsDer, precertTbs, h.list, hparse, htbs, hprecert, sct', hsct',
      verifyOneSct_eq_ok.mp hverify⟩

end Leaf

/-! ### A list with an entry of another version -/

namespace Sample

/-- The precertificate of the leaf below: one field and no extension. -/
def precert : Bytes := tbsDer [⟨0x02, [1]⟩] []

/-- The library of `Precert`, with octet strings. -/
def derWithOctets : Der :=
  { der with
    octetString := fun bytes =>
      match readTlv bytes with
      | some ((0x04, content), []) => some content
      | _ => none }

/-- One key, which accepts one signature. -/
def curve : Curve where
  fromPublicKeyDer bytes := if bytes = [2] then some bytes else none
  verify _ _ signature := signature = [1]

/-- Libraries with a CT log's key, and octet strings. -/
def ctExternals : Externals := { Externals.ofTexts [] with der := derWithOctets, p256 := curve }

/-- The CT log with this key. -/
def ctLog : CtLog where
  baseUrl := []
  hashAlgorithm := []
  publicKey := ⟨[2], [], 0, none⟩
  logIdKeyId := []

/-- The trust store with it. -/
def ctStore : TrustStore := ⟨[], [], [ctLog], [], [], [], []⟩

/-- An SCT of that log. -/
def goodSct : ParsedSct := ⟨0, Octets.zero 32, 0, [], 4, 3, [1]⟩

/-- An entry of version 1 of which nothing else is known. -/
def laterEntry : Bytes := [1, 0]

/-- The extension with a list of entries. -/
def sctListExtension (entries : List Bytes) : Extension :=
  ⟨sctListOid, false, tlv 0x04 (frameList entries)⟩

/-- A leaf with these entries. -/
def leafWith (entries : List Bytes) : ValidatedLeaf where
  leaf :=
    { tbsCertificate :=
        { subject := []
          issuer := []
          notBefore := 0
          notAfter := 0
          spkiDer := none
          extensions := some [sctListExtension entries]
          der := some (tbsDer [⟨0x02, [1]⟩] [sctListExtension entries]) }
      signatureAlgorithm := []
      signature := [] }
  leafSpkiDer := []
  issuerSpkiDer := []
  chainLength := 2

/-- The SCT can be written. -/
theorem goodSct_fits : goodSct.Fits := by
  constructor <;> decide

/-- The good SCT verifies by itself. -/
theorem verifyOneSct_goodSct :
    verifyOneSct ctExternals goodSct precert (ctExternals.sha256 []) ctStore = .ok () := by
  decide +kernel

/-- Without the list the leaf is the precertificate. -/
theorem precertTbsDer_leafWith {entries : List Bytes}
    (h : (tbsDer [⟨0x02, [1]⟩] [sctListExtension entries]).length ≤ scope.maxLength) :
    precertTbsDer ctExternals (tbsDer [⟨0x02, [1]⟩] [sctListExtension entries]) = .ok precert := by
  have hder : CanonicalDer ctExternals.der scope :=
    ⟨canonicalDer.anySequence, canonicalDer.anySequenceToDer, canonicalDer.anyNew,
      canonicalDer.extensions, canonicalDer.extensionsToDer⟩
  rw [precertTbsDer_tbsDer hder]
  · rfl
  · constructor
    · intro field _
      trivial
    · trivial
    · simp [scope, knownOids, sctListExtension]
    · exact h

/-- The list is found in the leaf. -/
theorem extractSctListBytes_leafWith {entries : List Bytes}
    (h : (frameList entries).length ≤ scope.maxLength) :
    extractSctListBytes ctExternals (leafWith entries).leaf.tbsCertificate =
      .ok (frameList entries) := by
  have hread := readTlv_tlv 0x04 (representable h) []
  rw [List.append_nil] at hread
  simp [extractSctListBytes, extensionsSlice, leafWith, findExtension, sctListExtension,
    ctExternals, derWithOctets, hread]

/-- An entry of another version before the good one. -/
theorem hasGoodEntry_leafWith :
    HasGoodEntry ctExternals (leafWith [laterEntry, encodeSct goodSct]) ctStore
      [laterEntry, encodeSct goodSct] where
  wellFramed := ⟨by decide +kernel, by decide +kernel⟩
  list := extractSctListBytes_leafWith (by decide +kernel)
  good := ⟨_, precert, goodSct, rfl, precertTbsDer_leafWith (by decide +kernel),
    ⟨goodSct_fits, by simp⟩, verifyOneSct_goodSct⟩

/-- An entry of another version has not the layout of an SCT. -/
theorem not_hasSctLayout_laterEntry : ¬ HasSctLayout laterEntry := by
  intro h
  obtain ⟨sct, -, heq⟩ := h
  have hlength := congrArg List.length heq
  simp only [laterEntry, encodeSct, List.length_append, List.length_cons, List.length_nil,
    length_toBeBytes] at hlength
  omega

/-- The leaf with such an entry before the good one. -/
theorem verifyEmbeddedScts_iff_layout_later :
    verifyEmbeddedScts ctExternals (leafWith [laterEntry, encodeSct goodSct]) ctStore = .ok () ↔
      ∀ entry ∈ [laterEntry, encodeSct goodSct], HasSctLayout entry :=
  verifyEmbeddedScts_iff_layout hasGoodEntry_leafWith

/-- **The good entry does not suffice.**  It verifies, and the entry of another version beside it
    fails the leaf. -/
theorem goodEntry_rejected :
    HasGoodEntry ctExternals (leafWith [laterEntry, encodeSct goodSct]) ctStore
        [laterEntry, encodeSct goodSct] ∧
      verifyEmbeddedScts ctExternals (leafWith [laterEntry, encodeSct goodSct]) ctStore =
        .error sctInvalid :=
  ⟨hasGoodEntry_leafWith, verifyEmbeddedScts_of_not_layout hasGoodEntry_leafWith.wellFramed
    hasGoodEntry_leafWith.list (List.mem_cons_self ..) not_hasSctLayout_laterEntry⟩

end Sample

end AttestationVerify
