import AttestationVerify.BundleProtojson
import AttestationVerify.Rekor.Checkpoint

namespace AttestationVerify

open Wire Wire.Json Wire.Serde Wire.Proto3 Wire.Rfc3339

/-!
# The protojson encoding of a trusted root

`toProto` prints the trust-store model in the schema of a trusted root, where a log id and a
checkpoint key id are the same kind of message; `toRaw` is the raw mirror such a document should be
read into.

* `TrustStore.fromRaw_toRaw` — the conversion undoes `toRaw`;
* `rawTlog_toProto`, `rawTlog_checkpointKeyId` — the raw decoder reads a log as `toRaw`, but only
  one without a checkpoint key id;
* `roundTrips_iff` — so a printed trust store is read back exactly when no log has one, and every
  chain is written.
-/

/-! ### Printing -/

/-- How a document is written: the text of an instant, and whether an empty list is left out. -/
structure Writing where
  instant : ℤ → Str
  omitEmpty : Bool

/-- A repeated field, which the writer may leave out when it is empty. -/
def Writing.list (w : Writing) (vs : List Value) : Option Value :=
  if w.omitEmpty then repeated vs else some (.array vs)

section Printing

variable (w : Writing)

/-- A `TimeRange` message; no end is left out. -/
def ValidityPeriod.toProto (v : ValidityPeriod) : Value := .object (fields
  [("start", some (.string (w.instant v.start))),
   ("end", v.end_.map fun e => .string (w.instant e))])

/-- A `PublicKey` message. -/
def PublicKey.toProto (k : PublicKey) : Value := .object (fields
  [("rawBytes", bytes k.rawBytes), ("keyDetails", text k.keyDetails),
   ("validFor", some (k.validFor.toProto w))])

/-- A `LogId` message. -/
def logIdToProto (keyId : Bytes) : Value := .object (fields [("keyId", bytes keyId)])

/-- A `TransparencyLogInstance` message of a Rekor log. -/
def TransparencyLog.toProto (l : TransparencyLog) : Value := .object (fields
  [("baseUrl", text l.baseUrl), ("hashAlgorithm", text l.hashAlgorithm),
   ("publicKey", some (l.publicKey.toProto w)), ("logId", some (logIdToProto l.logIdKeyId)),
   ("checkpointKeyId", l.checkpointKeyId.map logIdToProto)])

/-- A `TransparencyLogInstance` message of a CT log. -/
def CtLog.toProto (l : CtLog) : Value := .object (fields
  [("baseUrl", text l.baseUrl), ("hashAlgorithm", text l.hashAlgorithm),
   ("publicKey", some (l.publicKey.toProto w)), ("logId", some (logIdToProto l.logIdKeyId))])

/-- A `DistinguishedName` message. -/
def CaSubject.toProto (s : CaSubject) : Value :=
  .object (fields [("organization", text s.organization), ("commonName", text s.commonName)])

/-- An `X509CertificateChain` message. -/
def certChainToProto (certificates : List Certificate) : Value :=
  .object (fields [("certificates", w.list (certificates.map Certificate.toProto))])

/-- A `CertificateAuthority` message. -/
def CertificateAuthority.toProto (ca : CertificateAuthority) : Value := .object (fields
  [("subject", some ca.subject.toProto), ("uri", text ca.uri),
   ("certChain", some (certChainToProto w ca.certificates)),
   ("validFor", some (ca.validFor.toProto w))])

/-- A `TrustedRoot` message. -/
def TrustStore.toProto (s : TrustStore) : Value := .object (fields
  [("mediaType", text s.mediaType), ("tlogs", w.list (s.tlogs.map (TransparencyLog.toProto w))),
   ("ctlogs", w.list (s.ctlogs.map (CtLog.toProto w))),
   ("certificateAuthorities",
     w.list (s.certificateAuthorities.map (CertificateAuthority.toProto w))),
   ("timestampAuthorities", w.list (s.timestampAuthorities.map (CertificateAuthority.toProto w)))])

/-! ### The raw mirror -/

/-- The period as it is deserialised. -/
def ValidityPeriod.toRaw (v : ValidityPeriod) : RawValidFor :=
  ⟨w.instant v.start, v.end_.map w.instant⟩

/-- The key as it is deserialised. -/
def PublicKey.toRaw (k : PublicKey) : RawPublicKey :=
  ⟨Base64.encode k.rawBytes, k.keyDetails, k.validFor.toRaw w⟩

/-- The log as it is deserialised, where it has no checkpoint key id. -/
def TransparencyLog.toRaw (l : TransparencyLog) : RawTlog :=
  ⟨l.baseUrl, l.hashAlgorithm, l.publicKey.toRaw w, ⟨Base64.encode l.logIdKeyId⟩, none⟩

/-- The CT log as it is deserialised. -/
def CtLog.toRaw (l : CtLog) : RawTlog :=
  ⟨l.baseUrl, l.hashAlgorithm, l.publicKey.toRaw w, ⟨Base64.encode l.logIdKeyId⟩, none⟩

/-- The authority as it is deserialised. -/
def CertificateAuthority.toRaw (ca : CertificateAuthority) : RawCertificateAuthority :=
  ⟨⟨ca.subject.organization, ca.subject.commonName⟩, ca.uri,
    ⟨ca.certificates.map fun c => ⟨Base64.encode c.rawBytes⟩⟩, ca.validFor.toRaw w⟩

/-- The document as it is deserialised. -/
def TrustStore.toRaw (s : TrustStore) : RawTrustedRoot :=
  ⟨s.mediaType, s.tlogs.map (TransparencyLog.toRaw w), s.ctlogs.map (CtLog.toRaw w),
    s.certificateAuthorities.map (CertificateAuthority.toRaw w),
    s.timestampAuthorities.map (CertificateAuthority.toRaw w)⟩

/-! ### What can be printed, and what can be read -/

/-- The writing spells both instants. -/
structure ValidityPeriod.Printable (v : ValidityPeriod) : Prop where
  start : Spells (w.instant v.start) v.start
  end_ : ∀ e ∈ v.end_, Spells (w.instant e) e

/-- The key has no empty field. -/
structure PublicKey.Printable (k : PublicKey) : Prop where
  rawBytes : k.rawBytes ≠ []
  keyDetails : k.keyDetails ≠ []
  validFor : k.validFor.Printable w

/-- The log has no empty field. -/
structure TransparencyLog.Printable (l : TransparencyLog) : Prop where
  baseUrl : l.baseUrl ≠ []
  hashAlgorithm : l.hashAlgorithm ≠ []
  publicKey : l.publicKey.Printable w
  logIdKeyId : l.logIdKeyId ≠ []
  checkpointKeyId : l.checkpointKeyId ≠ some []

/-- The CT log has no empty field. -/
structure CtLog.Printable (l : CtLog) : Prop where
  baseUrl : l.baseUrl ≠ []
  hashAlgorithm : l.hashAlgorithm ≠ []
  publicKey : l.publicKey.Printable w
  logIdKeyId : l.logIdKeyId ≠ []

/-- The authority has no empty field, and its chain is within the limit. -/
structure CertificateAuthority.Printable (ca : CertificateAuthority) : Prop where
  organization : ca.subject.organization ≠ []
  commonName : ca.subject.commonName ≠ []
  uri : ca.uri ≠ []
  count : ca.certificates.length ≤ maxCertificatesPerChain
  certificates : ∀ c ∈ ca.certificates, c.rawBytes ≠ []
  validFor : ca.validFor.Printable w

/-- Everything in the store can be written without loss. -/
structure TrustStore.Printable (s : TrustStore) : Prop where
  mediaType : s.mediaType = trustedRootMediaType
  tlogs : ∀ l ∈ s.tlogs, l.Printable w
  ctlogs : ∀ l ∈ s.ctlogs, l.Printable w
  certificateAuthorities : ∀ ca ∈ s.certificateAuthorities, ca.Printable w
  timestampAuthorities : ∀ ca ∈ s.timestampAuthorities, ca.Printable w

/-- The list of certificates is written. -/
def CertificateAuthority.WritesChain (ca : CertificateAuthority) : Prop :=
  w.omitEmpty = true → ca.certificates ≠ []

/-- What the parser needs beyond that: no checkpoint key id, and every chain written out. -/
structure TrustStore.Readable (s : TrustStore) : Prop where
  checkpointKeyId : ∀ l ∈ s.tlogs, l.checkpointKeyId = none
  certificateAuthorities : ∀ ca ∈ s.certificateAuthorities, ca.WritesChain w
  timestampAuthorities : ∀ ca ∈ s.timestampAuthorities, ca.WritesChain w

end Printing

variable {w : Writing}

/-! ### Conversion undoes the raw mirror -/

/-- A text that spells a whole second is read as it. -/
theorem parseRfc3339_of_spells {s : Str} {t : ℤ} (field : String) (h : Spells s t) :
    parseRfc3339 field s = .ok t :=
  parseRfc3339_eq_ok.mpr ⟨t, h, (Int.ceil_intCast t).symm⟩

/-- A written period is read back. -/
theorem ValidityPeriod.fromRaw_toRaw {v : ValidityPeriod} (h : v.Printable w) :
    ValidityPeriod.fromRaw (v.toRaw w) = .ok v := by
  have hend : (v.end_.map w.instant).mapM (parseRfc3339 "validFor.end") = .ok v.end_ :=
    optionMapM_map_ok fun e he => parseRfc3339_of_spells _ (h.end_ e he)
  simp [ValidityPeriod.fromRaw, ValidityPeriod.toRaw, parseRfc3339_of_spells _ h.start, hend]

/-- A written key is read back. -/
theorem PublicKey.fromRaw_toRaw {k : PublicKey} (h : k.Printable w) :
    PublicKey.fromRaw (k.toRaw w) = .ok k := by
  simp [PublicKey.fromRaw, PublicKey.toRaw, ValidityPeriod.fromRaw_toRaw h.validFor]

/-- A written log is read back if it has no checkpoint key id. -/
theorem TransparencyLog.fromRaw_toRaw {l : TransparencyLog} (h : l.Printable w)
    (hnone : l.checkpointKeyId = none) : TransparencyLog.fromRaw (l.toRaw w) = .ok l := by
  have hkey := PublicKey.fromRaw_toRaw h.publicKey
  simp [TransparencyLog.fromRaw, TransparencyLog.toRaw, hkey, ← hnone]

/-- A written CT log is read back. -/
theorem CtLog.fromRaw_toRaw {l : CtLog} (h : l.Printable w) :
    CtLog.fromRaw (l.toRaw w) = .ok l := by
  simp [CtLog.fromRaw, CtLog.toRaw, PublicKey.fromRaw_toRaw h.publicKey]

/-- A written authority is read back. -/
theorem CertificateAuthority.fromRaw_toRaw {ca : CertificateAuthority} (h : ca.Printable w) :
    CertificateAuthority.fromRaw (ca.toRaw w) = .ok ca := by
  have hcount : checkCount (ca.toRaw w).certChain.certificates maxCertificatesPerChain
      .tooManyCertificates = .ok () :=
    checkCount_eq_ok.mpr (by simpa [CertificateAuthority.toRaw] using h.count)
  have hcertificates : (ca.toRaw w).certChain.certificates.mapM (fun entry => do
      let rawBytes ← strictBase64 "certChain.certificates[].rawBytes" entry.rawBytes
      pure (⟨rawBytes⟩ : Certificate)) = .ok ca.certificates :=
    mapM_map_ok fun c _ => by simp
  rw [CertificateAuthority.fromRaw, hcount, ok_bind, hcertificates, ok_bind,
    show (ca.toRaw w).validFor = ca.validFor.toRaw w from rfl,
    ValidityPeriod.fromRaw_toRaw h.validFor]
  rfl

/-- A written store is read back, with the document's own fingerprint and source. -/
theorem TrustStore.fromRaw_toRaw {s : TrustStore} (h : s.Printable w)
    (hnone : ∀ l ∈ s.tlogs, l.checkpointKeyId = none) (fingerprint source : Str) :
    TrustStore.fromRaw (s.toRaw w) fingerprint source =
      .ok { s with fingerprint := fingerprint, source := source } := by
  have htlogs :
      (s.tlogs.map (TransparencyLog.toRaw w)).mapM TransparencyLog.fromRaw = .ok s.tlogs :=
    mapM_map_ok fun l hl => TransparencyLog.fromRaw_toRaw (h.tlogs l hl) (hnone l hl)
  have hctlogs : (s.ctlogs.map (CtLog.toRaw w)).mapM CtLog.fromRaw = .ok s.ctlogs :=
    mapM_map_ok fun l hl => CtLog.fromRaw_toRaw (h.ctlogs l hl)
  have hcas : (s.certificateAuthorities.map (CertificateAuthority.toRaw w)).mapM
      CertificateAuthority.fromRaw = .ok s.certificateAuthorities :=
    mapM_map_ok fun ca hca => CertificateAuthority.fromRaw_toRaw (h.certificateAuthorities ca hca)
  have htsas : (s.timestampAuthorities.map (CertificateAuthority.toRaw w)).mapM
      CertificateAuthority.fromRaw = .ok s.timestampAuthorities :=
    mapM_map_ok fun ca hca => CertificateAuthority.fromRaw_toRaw (h.timestampAuthorities ca hca)
  rw [TrustStore.fromRaw, ensure_of (show (s.toRaw w).mediaType = _ from h.mediaType)]
  simp [TrustStore.toRaw, htlogs, hctlogs, hcas, htsas]

/-! ### Reading what was printed -/

section Lists

variable {α β γ : Type} {name : String} {m : Members}

/-- A list that is not left out is written as an array. -/
theorem list_of_ne {vs : List Value} (h : w.omitEmpty = true → vs ≠ []) :
    w.list vs = some (.array vs) := by
  unfold Writing.list
  split
  · rename_i homit
    exact if_neg (h homit)
  · rfl

/-- A list field with a default is read whether or not an empty list is written. -/
theorem list_step {d : Decoder α} (g : γ → Value) (f : γ → α) (xs : List γ)
    {k : List α → FieldReader β} (h : ∀ x ∈ xs, d (g x) = some (f x))
    (hlookup : member m name = w.list (xs.map g)) :
    (defaulted name (seq d) [] >>= k) (.members m) = k (xs.map f) (.members m) := by
  cases homit : w.omitEmpty with
  | true => exact repeated_step g f xs h (hlookup.trans (if_pos homit))
  | false => exact defaulted_step (hlookup.trans (list_of_ne (by simp [homit]))) (seq_map h)

/-- One element that is refused fails the whole list. -/
theorem list_mistyped {d : Decoder α} (g : γ → Value) {xs : List γ} {x : γ}
    {k : List α → FieldReader β} (hx : x ∈ xs) (h : d (g x) = none)
    (hlookup : member m name = w.list (xs.map g)) :
    (defaulted name (seq d) [] >>= k) (.members m) = none := by
  have hne : xs.map g ≠ [] := List.ne_nil_of_mem (List.mem_map_of_mem hx)
  exact defaulted_mistyped (hlookup.trans (list_of_ne fun _ => hne)) (seq_none hx h)

end Lists

/-- A written period is deserialised. -/
theorem rawValidFor_toProto (v : ValidityPeriod) :
    rawValidFor (v.toProto w) = some (v.toRaw w) := by
  simp only [rawValidFor, ValidityPeriod.toProto, struct_object]
  rw [string_step (s := w.instant v.start) (by simp),
    optional_step (fun e => .string (w.instant e)) w.instant v.end_ nofun (fun _ _ => rfl)
      (by simp)]
  rfl

/-- A written key is deserialised. -/
theorem rawPublicKey_toProto {k : PublicKey} (h : k.Printable w) :
    rawPublicKey (k.toProto w) = some (k.toRaw w) := by
  simp only [rawPublicKey, PublicKey.toProto, struct_object]
  rw [bytes_step h.rawBytes (by simp), text_step h.keyDetails (by simp),
    required_step (by simp) (rawValidFor_toProto (w := w) k.validFor)]
  rfl

/-- A written log id is deserialised. -/
theorem rawLogId_logIdToProto {keyId : Bytes} (h : keyId ≠ []) :
    rawLogId (logIdToProto keyId) = some ⟨Base64.encode keyId⟩ := rawLogId_toProto h

/-- A written Rekor log is deserialised if it has no checkpoint key id. -/
theorem rawTlog_toProto {l : TransparencyLog} (h : l.Printable w)
    (hnone : l.checkpointKeyId = none) : rawTlog (l.toProto w) = some (l.toRaw w) := by
  simp only [rawTlog, TransparencyLog.toProto, struct_object]
  rw [text_step h.baseUrl (by simp), text_step h.hashAlgorithm (by simp),
    required_step (by simp) (rawPublicKey_toProto h.publicKey),
    required_step (by simp) (rawLogId_logIdToProto h.logIdKeyId),
    defaulted_missing (by simp [hnone])]
  rfl

/-- A checkpoint key id is a message, and the mirror reads a string. -/
theorem rawTlog_checkpointKeyId {l : TransparencyLog} (h : l.Printable w) {keyId : Bytes}
    (hsome : l.checkpointKeyId = some keyId) : rawTlog (l.toProto w) = none := by
  simp only [rawTlog, TransparencyLog.toProto, struct_object, Option.map_eq_none_iff]
  rw [text_step h.baseUrl (by simp), text_step h.hashAlgorithm (by simp),
    required_step (by simp) (rawPublicKey_toProto h.publicKey),
    required_step (by simp) (rawLogId_logIdToProto h.logIdKeyId)]
  exact defaulted_mistyped (v := logIdToProto keyId) (by simp [hsome]) rfl

/-- A written CT log is deserialised. -/
theorem rawTlog_toProto_ctlog {l : CtLog} (h : l.Printable w) :
    rawTlog (l.toProto w) = some (l.toRaw w) := by
  simp only [rawTlog, CtLog.toProto, struct_object]
  rw [text_step h.baseUrl (by simp), text_step h.hashAlgorithm (by simp),
    required_step (by simp) (rawPublicKey_toProto h.publicKey),
    required_step (by simp) (rawLogId_logIdToProto h.logIdKeyId), defaulted_missing (by simp)]
  rfl

/-- A written certificate is deserialised. -/
theorem rawCertEntry_toProto {c : Certificate} (h : c.rawBytes ≠ []) :
    rawCertEntry c.toProto = some ⟨Base64.encode c.rawBytes⟩ := by
  simp only [rawCertEntry, Certificate.toProto, struct_object]
  rw [bytes_step h (by simp)]
  rfl

/-- A written subject is deserialised. -/
theorem rawCaSubject_toProto {s : CaSubject} (horganization : s.organization ≠ [])
    (hname : s.commonName ≠ []) :
    rawCaSubject s.toProto = some ⟨s.organization, s.commonName⟩ := by
  simp only [rawCaSubject, CaSubject.toProto, struct_object]
  rw [text_step horganization (by simp), text_step hname (by simp)]
  rfl

/-- A written authority is deserialised if its chain was written out. -/
theorem rawCertificateAuthority_toProto {ca : CertificateAuthority} (h : ca.Printable w)
    (hchain : ca.WritesChain w) :
    rawCertificateAuthority (ca.toProto w) = some (ca.toRaw w) := by
  have hcertificates : rawCertChain (certChainToProto w ca.certificates) =
      some ⟨ca.certificates.map fun c => ⟨Base64.encode c.rawBytes⟩⟩ := by
    have hne : w.omitEmpty = true → ca.certificates.map Certificate.toProto ≠ [] :=
      fun homit => by simpa using hchain homit
    have hlist := list_of_ne hne
    simp only [rawCertChain, certChainToProto, struct_object]
    rw [required_step (by simp [hlist])
      (seq_map fun c hc => rawCertEntry_toProto (h.certificates c hc))]
    rfl
  simp only [rawCertificateAuthority, CertificateAuthority.toProto, struct_object]
  rw [required_step (by simp) (rawCaSubject_toProto h.organization h.commonName),
    text_step h.uri (by simp), required_step (by simp) hcertificates,
    required_step (by simp) (rawValidFor_toProto (w := w) ca.validFor)]
  rfl

/-- A chain left out because it is empty is missed. -/
theorem rawCertificateAuthority_unwritten {ca : CertificateAuthority} (h : ca.Printable w)
    (hchain : ¬ ca.WritesChain w) : rawCertificateAuthority (ca.toProto w) = none := by
  have hcertificates : rawCertChain (certChainToProto w ca.certificates) = none := by
    obtain ⟨homit, hnil⟩ : w.omitEmpty = true ∧ ca.certificates = [] := by
      simpa [CertificateAuthority.WritesChain] using hchain
    simp only [rawCertChain, certChainToProto, struct_object, Option.map_eq_none_iff]
    exact required_missing (by simp [Writing.list, homit, hnil, repeated])
  simp only [rawCertificateAuthority, CertificateAuthority.toProto, struct_object,
    Option.map_eq_none_iff]
  rw [required_step (by simp) (rawCaSubject_toProto h.organization h.commonName),
    text_step h.uri (by simp)]
  exact required_mistyped (by simp) hcertificates

/-- The whole written document is deserialised. -/
theorem rawTrustedRoot_toProto {s : TrustStore} (h : s.Printable w) (hread : s.Readable w) :
    rawTrustedRoot (s.toProto w) = some (s.toRaw w) := by
  have hmedia : s.mediaType ≠ [] := by rw [h.mediaType]; decide
  simp only [rawTrustedRoot, TrustStore.toProto, struct_object]
  rw [text_step hmedia (by simp),
    list_step (w := w) (TransparencyLog.toProto w) (TransparencyLog.toRaw w) s.tlogs
      (fun l hl => rawTlog_toProto (h.tlogs l hl) (hread.checkpointKeyId l hl)) (by simp),
    list_step (w := w) (CtLog.toProto w) (CtLog.toRaw w) s.ctlogs
      (fun l hl => rawTlog_toProto_ctlog (h.ctlogs l hl)) (by simp),
    list_step (w := w) (CertificateAuthority.toProto w) (CertificateAuthority.toRaw w)
      s.certificateAuthorities (fun ca hca => rawCertificateAuthority_toProto
        (h.certificateAuthorities ca hca) (hread.certificateAuthorities ca hca)) (by simp),
    list_step (w := w) (CertificateAuthority.toProto w) (CertificateAuthority.toRaw w)
      s.timestampAuthorities (fun ca hca => rawCertificateAuthority_toProto
        (h.timestampAuthorities ca hca) (hread.timestampAuthorities ca hca)) (by simp)]
  rfl

/-- One checkpoint key id, or one chain left out, makes the reader refuse the whole document. -/
theorem rawTrustedRoot_unreadable {s : TrustStore} (h : s.Printable w) (hread : ¬ s.Readable w) :
    rawTrustedRoot (s.toProto w) = none := by
  have hmedia : s.mediaType ≠ [] := by rw [h.mediaType]; decide
  simp only [rawTrustedRoot, TrustStore.toProto, struct_object, Option.map_eq_none_iff]
  rw [text_step hmedia (by simp)]
  by_cases htlogs : ∀ l ∈ s.tlogs, l.checkpointKeyId = none
  · rw [list_step (w := w) (TransparencyLog.toProto w) (TransparencyLog.toRaw w) s.tlogs
        (fun l hl => rawTlog_toProto (h.tlogs l hl) (htlogs l hl)) (by simp),
      list_step (w := w) (CtLog.toProto w) (CtLog.toRaw w) s.ctlogs
        (fun l hl => rawTlog_toProto_ctlog (h.ctlogs l hl)) (by simp)]
    by_cases hcas : ∀ ca ∈ s.certificateAuthorities, ca.WritesChain w
    · rw [list_step (w := w) (CertificateAuthority.toProto w) (CertificateAuthority.toRaw w)
        s.certificateAuthorities (fun ca hca => rawCertificateAuthority_toProto
          (h.certificateAuthorities ca hca) (hcas ca hca)) (by simp)]
      obtain ⟨ca, hca, hchain⟩ : ∃ ca ∈ s.timestampAuthorities, ¬ ca.WritesChain w := by
        by_contra hall
        push Not at hall
        exact hread ⟨htlogs, hcas, hall⟩
      exact list_mistyped (w := w) (CertificateAuthority.toProto w) hca
        (rawCertificateAuthority_unwritten (h.timestampAuthorities ca hca) hchain) (by simp)
    · push Not at hcas
      obtain ⟨ca, hca, hchain⟩ := hcas
      exact list_mistyped (w := w) (CertificateAuthority.toProto w) hca
        (rawCertificateAuthority_unwritten (h.certificateAuthorities ca hca) hchain) (by simp)
  · push Not at htlogs
    obtain ⟨l, hl, hsome⟩ := htlogs
    obtain ⟨keyId, hkeyId⟩ := Option.ne_none_iff_exists'.mp hsome
    exact list_mistyped (w := w) (TransparencyLog.toProto w) hl
      (rawTlog_checkpointKeyId (h.tlogs l hl) hkeyId) (by simp)

/-! ### Strictness -/

/-- A list of values that repeat no key repeats none. -/
theorem strictField_list {γ : Type} {g : γ → Value} {xs : List γ} (hg : ∀ x ∈ xs, (g x).Strict) :
    StrictField (w.list (xs.map g)) := by
  unfold Writing.list
  split
  · exact strictField_repeated hg
  · simpa using hg

/-- A written period repeats no key. -/
theorem ValidityPeriod.strict_toProto (v : ValidityPeriod) : (v.toProto w).Strict := by
  have hend : StrictField (v.end_.map fun e => Value.string (w.instant e)) :=
    strictField_map fun _ _ => strict_string _
  exact strict_fields (by simp) (by simp [hend])

/-- A written key repeats no key. -/
theorem PublicKey.strict_toProto (k : PublicKey) : (k.toProto w).Strict :=
  strict_fields (by simp) (by simp [k.validFor.strict_toProto])

/-- A written log id repeats no key. -/
theorem strict_logIdToProto (keyId : Bytes) : (logIdToProto keyId).Strict :=
  strict_fields (by simp) (by simp)

/-- A written Rekor log repeats no key. -/
theorem TransparencyLog.strict_toProto (l : TransparencyLog) : (l.toProto w).Strict := by
  have hcheckpoint : StrictField (l.checkpointKeyId.map logIdToProto) :=
    strictField_map fun k _ => strict_logIdToProto k
  exact strict_fields (by simp)
    (by simp [l.publicKey.strict_toProto, strict_logIdToProto, hcheckpoint])

/-- A written CT log repeats no key. -/
theorem CtLog.strict_toProto (l : CtLog) : (l.toProto w).Strict :=
  strict_fields (by simp) (by simp [l.publicKey.strict_toProto, strict_logIdToProto])

/-- A written authority repeats no key. -/
theorem CertificateAuthority.strict_toProto (ca : CertificateAuthority) :
    (ca.toProto w).Strict := by
  have hsubject : ca.subject.toProto.Strict := strict_fields (by simp) (by simp)
  have hcertificates : StrictField (w.list (ca.certificates.map Certificate.toProto)) :=
    strictField_list fun c _ => strict_fields (by simp) (by simp)
  have hchain : (certChainToProto w ca.certificates).Strict :=
    strict_fields (by simp) (by simp [hcertificates])
  exact strict_fields (by simp) (by simp [hsubject, hchain, ca.validFor.strict_toProto])

/-- A written trusted root repeats no key. -/
theorem TrustStore.strict_toProto (s : TrustStore) : (s.toProto w).Strict := by
  have htlogs : StrictField (w.list (s.tlogs.map (TransparencyLog.toProto w))) :=
    strictField_list fun l _ => l.strict_toProto
  have hctlogs : StrictField (w.list (s.ctlogs.map (CtLog.toProto w))) :=
    strictField_list fun l _ => l.strict_toProto
  have hcas :
      StrictField (w.list (s.certificateAuthorities.map (CertificateAuthority.toProto w))) :=
    strictField_list fun ca _ => ca.strict_toProto
  have htsas : StrictField (w.list (s.timestampAuthorities.map (CertificateAuthority.toProto w))) :=
    strictField_list fun ca _ => ca.strict_toProto
  exact strict_fields (by simp) (by simp [htlogs, hctlogs, hcas, htsas])

/-! ### The round trip -/

section RoundTrip

variable {X : Externals} {s : TrustStore} {document : Bytes}

/-- `document` is a printed form of `s`, within the parser's limits. -/
structure TrustStore.IsPrinted (X : Externals) (w : Writing) (s : TrustStore) (document : Bytes) :
    Prop where
  printable : s.Printable w
  reading : X.readJson document = ⟨(s.toProto w).toTree, true⟩
  size : document.length ≤ maxInputBytes
  nodes : (s.toProto w).toTree.nodes ≤ maxJsonNodes

/-- The document is read as the trust store it was printed from, and every log then has the
    checkpoint key hint it had. -/
def TrustStore.RoundTrips (X : Externals) (s : TrustStore) (document : Bytes) : Prop :=
  ∃ read, TrustStore.fromJson X document = .ok read ∧ read.sameContent s ∧
    read.tlogs.map (checkpointKeyHint X) = s.tlogs.map (checkpointKeyHint X)

/-- Parsing a printed trust store comes down to its raw decoding. -/
theorem TrustStore.fromJson_toProto (h : s.IsPrinted X w document) :
    TrustStore.fromJson X document = (fromValue rawTrustedRoot (s.toProto w)).bind fun raw =>
      TrustStore.fromRaw raw (Hex.encode (X.sha256 document).bytes) "external".toList := by
  have hsize : checkInputSize document = .ok () := checkInputSize_eq_ok.mpr h.size
  have hparse : parseStrict X document = .ok (s.toProto w) :=
    parseStrict_eq_ok.mpr ⟨h.reading, s.strict_toProto, h.nodes⟩
  rw [TrustStore.fromJson, hsize, ok_bind, hparse, ok_bind]
  rfl

/-- A printed store that is not readable is refused as JSON. -/
theorem TrustStore.fromJson_unreadable (h : s.IsPrinted X w document) (hread : ¬ s.Readable w) :
    TrustStore.fromJson X document = .error (.parse .json) := by
  rw [TrustStore.fromJson_toProto h, fromValue, rawTrustedRoot_unreadable h.printable hread]
  rfl

/-- **A printed trust store is read back exactly when no log has a checkpoint key id** and no
    chain is left out. -/
theorem TrustStore.roundTrips_iff (h : s.IsPrinted X w document) :
    s.RoundTrips X document ↔ s.Readable w := by
  constructor
  · rintro ⟨read, hok, -⟩
    by_contra hread
    rw [TrustStore.fromJson_unreadable h hread] at hok
    simp at hok
  · intro hread
    refine ⟨{ s with
        fingerprint := Hex.encode (X.sha256 document).bytes, source := "external".toList },
      ?_, ⟨rfl, rfl, rfl, rfl, rfl⟩, rfl⟩
    rw [TrustStore.fromJson_toProto h, fromValue, rawTrustedRoot_toProto h.printable hread]
    exact TrustStore.fromRaw_toRaw h.printable hread.checkpointKeyId _ _

end RoundTrip

/-! ### A log with a checkpoint key id -/

/-- One log, with the given checkpoint key id. -/
private def keyedStore (checkpointKeyId : Option Bytes) : TrustStore where
  mediaType := trustedRootMediaType
  tlogs := [⟨['u'], ['h'], ⟨[0], ['d'], ⟨0, none⟩⟩, [0], checkpointKeyId⟩]
  ctlogs := []
  certificateAuthorities := []
  timestampAuthorities := []
  fingerprint := []
  source := []

/-- A writer for stores whose only instant is the epoch. -/
private def epochWriting : Writing := ⟨fun _ => "1970-01-01T00:00:00Z".toList, true⟩

/-- The writer's one text spells the epoch. -/
private theorem spells_epoch : Spells "1970-01-01T00:00:00Z".toList (0 : ℤ) := by
  refine ⟨⟨1970, 1, 1, false, 0, 0, 0, none, .utc false⟩, ?_, by decide, ?_⟩
  · constructor <;> simp [monthLength, Zone.Valid]
  · simp [Stamp.instant, Stamp.wholeSeconds, dayNumber, daysBeforeYear_eq, daysThroughMonth,
      epochDay_eq, Zone.offset, fractionValue]

/-- The store's document up to the log id. -/
private def keyedHead : Str :=
  "\x7b\"mediaType\":\"application/vnd.dev.sigstore.trustedroot+json;version=0.1\",".toList ++
    "\"tlogs\":[\x7b\"baseUrl\":\"u\",\"hashAlgorithm\":\"h\",".toList ++
    "\"publicKey\":\x7b\"rawBytes\":\"AA==\",\"keyDetails\":\"d\",".toList ++
    "\"validFor\":\x7b\"start\":\"1970-01-01T00:00:00Z\"\x7d\x7d,".toList ++
    "\"logId\":\x7b\"keyId\":\"AA==\"\x7d".toList

/-- The text of the store, with and without a checkpoint key id. -/
private def keyedText : Option Bytes → Bytes
  | none => utf8 (keyedHead ++ "\x7d]\x7d".toList)
  | some keyId => utf8 (keyedHead ++ (",\"checkpointKeyId\":\x7b\"keyId\":\"".toList ++
      Base64.encode keyId ++ "\"\x7d\x7d]\x7d".toList))

/-- A reader of this text. -/
private def keyedX (checkpointKeyId : Option Bytes) : Externals := .ofTexts
  [(keyedText checkpointKeyId, ⟨((keyedStore checkpointKeyId).toProto epochWriting).toTree, true⟩)]

/-- The store can be written without loss. -/
private theorem printable_keyed {checkpointKeyId : Option Bytes}
    (hne : checkpointKeyId ≠ some []) : (keyedStore checkpointKeyId).Printable epochWriting where
  mediaType := rfl
  tlogs := by
    intro l hl
    obtain rfl := List.mem_singleton.mp hl
    exact ⟨nofun, nofun, ⟨nofun, nofun, spells_epoch, nofun⟩, nofun, hne⟩
  ctlogs := nofun
  certificateAuthorities := nofun
  timestampAuthorities := nofun

set_option maxRecDepth 4000 in
/-- The common part of the text is short. -/
private theorem length_keyedHead : (utf8 keyedHead).length ≤ 4000 := by
  unfold keyedHead
  iterate 4 refine length_utf8_append_le ?_ (length_utf8_literal_le (n := 800) _ (by decide))
  exact length_utf8_literal_le _ (by decide)

/-- The text without the key id is the printed store. -/
private theorem isPrinted_keyed_none :
    (keyedStore none).IsPrinted (keyedX none) epochWriting (keyedText none) where
  printable := printable_keyed nofun
  reading := readJson_ofTexts_head _ _ _
  size := by
    have htail : (utf8 "\x7d]\x7d".toList).length = 3 := by decide
    have hhead := length_keyedHead
    simp only [keyedText, utf8_append, List.length_append, htail, maxInputBytes]
    omega
  nodes := by decide +kernel

/-- The text with the key id is the printed store. -/
private theorem isPrinted_keyed_some :
    (keyedStore (some [1, 2, 3, 4])).IsPrinted (keyedX (some [1, 2, 3, 4])) epochWriting
      (keyedText (some [1, 2, 3, 4])) where
  printable := printable_keyed (by decide)
  reading := readJson_ofTexts_head _ _ _
  size := by
    have hmember := length_utf8_le (",\"checkpointKeyId\":\x7b\"keyId\":\"".toList ++
      Base64.encode [1, 2, 3, 4] ++ "\"\x7d\x7d]\x7d".toList)
    have hlength : (",\"checkpointKeyId\":\x7b\"keyId\":\"".toList ++
      Base64.encode [1, 2, 3, 4] ++ "\"\x7d\x7d]\x7d".toList).length = 42 := by decide
    have hhead := length_keyedHead
    rw [hlength] at hmember
    simp only [keyedText]
    rw [utf8_append, List.length_append]
    unfold maxInputBytes
    omega
  nodes := by decide +kernel

/-- Without a checkpoint key id the document is read back. -/
theorem roundTrips_unkeyed_iff :
    (keyedStore none).RoundTrips (keyedX none) (keyedText none) ↔
      (keyedStore none).Readable epochWriting :=
  TrustStore.roundTrips_iff isPrinted_keyed_none

/-- **A checkpoint key id refuses the whole document.** -/
theorem not_roundTrips_keyed :
    (keyedStore (some [1, 2, 3, 4])).IsPrinted (keyedX (some [1, 2, 3, 4])) epochWriting
        (keyedText (some [1, 2, 3, 4])) ∧
      TrustStore.fromJson (keyedX (some [1, 2, 3, 4])) (keyedText (some [1, 2, 3, 4])) =
        .error (.parse .json) ∧
      ¬ (keyedStore (some [1, 2, 3, 4])).RoundTrips (keyedX (some [1, 2, 3, 4]))
        (keyedText (some [1, 2, 3, 4])) := by
  have hread : ¬ (keyedStore (some [1, 2, 3, 4])).Readable epochWriting := fun h => by
    simpa using h.checkpointKeyId _ List.mem_cons_self
  have hrefused := TrustStore.fromJson_unreadable isPrinted_keyed_some hread
  refine ⟨isPrinted_keyed_some, hrefused, ?_⟩
  rintro ⟨read, hok, -⟩
  rw [hrefused] at hok
  simp at hok

end AttestationVerify
