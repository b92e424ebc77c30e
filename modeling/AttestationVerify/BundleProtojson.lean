import AttestationVerify.Bundle
import AttestationVerify.Wire.Proto3

namespace AttestationVerify

open Wire Wire.Json Wire.Serde Wire.Proto3

/-!
# The protojson encoding of a bundle

`toProto` prints each type of the bundle model by the proto3 JSON mapping; `toRaw` is the raw
mirror such a document should be read into.

* `fromRaw_toRaw` — the conversion undoes `toRaw`, for every bundle within the counts;
* `rawBundle_toProto` — the raw decoder reads `toProto` as `toRaw`, unless a required integer is
  zero;
* `fromJson_toProto_iff` — so a printed bundle is read back exactly when it has no zero integer.
-/

/-! ### Printing -/

/-- The canonical JSON of a certificate. -/
def Certificate.toProto (c : Certificate) : Value :=
  .object (fields [("rawBytes", bytes c.rawBytes)])

/-- The canonical JSON of a promise. -/
def InclusionPromise.toProto (p : InclusionPromise) : Value :=
  .object (fields [("signedEntryTimestamp", bytes p.signedEntryTimestamp)])

/-- The canonical JSON of a checkpoint. -/
def Checkpoint.toProto (c : Checkpoint) : Value := .object (fields [("envelope", text c.envelope)])

/-- The canonical JSON of a proof: 64-bit integers as strings, bytes in base64. -/
def InclusionProof.toProto (p : InclusionProof) : Value := .object (fields
  [("logIndex", uint64 p.logIndex), ("rootHash", bytes p.rootHash),
   ("treeSize", uint64 p.treeSize),
   ("hashes", repeated (p.hashes.map fun h => .string (Base64.encode h))),
   ("checkpoint", some p.checkpoint.toProto)])

/-- The canonical JSON of an entry, with the messages it does not have left out. -/
def TlogEntry.toProto (e : TlogEntry) : Value := .object (fields
  [("logIndex", uint64 e.logIndex),
   ("logId", some (.object (fields [("keyId", bytes e.logIdKeyId)]))),
   ("kindVersion", some (.object (fields [("kind", text e.kind), ("version", text e.version)]))),
   ("integratedTime", uint64 e.integratedTime),
   ("inclusionPromise", e.inclusionPromise.map InclusionPromise.toProto),
   ("inclusionProof", e.inclusionProof.map InclusionProof.toProto),
   ("canonicalizedBody", bytes e.canonicalizedBody)])

/-- The canonical JSON of a timestamp. -/
def Rfc3161Timestamp.toProto (t : Rfc3161Timestamp) : Value :=
  .object (fields [("signedTimestamp", bytes t.signedTimestamp)])

/-- The canonical JSON of the timestamps. -/
def TimestampVerificationData.toProto (d : TimestampVerificationData) : Value :=
  .object (fields
    [("rfc3161Timestamps", repeated (d.rfc3161Timestamps.map Rfc3161Timestamp.toProto))])

/-- The canonical JSON of the verification material. -/
def VerificationMaterial.toProto (m : VerificationMaterial) : Value := .object (fields
  [("certificate", some m.certificate.toProto),
   ("tlogEntries", repeated (m.tlogEntries.map TlogEntry.toProto)),
   ("timestampVerificationData", some m.timestampVerificationData.toProto)])

/-- The canonical JSON of a signature. -/
def DsseSignature.toProto (s : DsseSignature) : Value :=
  .object (fields [("sig", bytes s.sig), ("keyid", s.keyid.bind text)])

/-- The canonical JSON of an envelope with its one signature. -/
def DsseEnvelope.toProto (e : DsseEnvelope) : Value := .object (fields
  [("payload", bytes e.payload), ("payloadType", text e.payloadType),
   ("signatures", some (.array [e.signature.toProto]))])

/-- The canonical JSON of a bundle. -/
def Bundle.toProto (b : Bundle) : Value := .object (fields
  [("mediaType", text b.mediaType),
   ("verificationMaterial", some b.verificationMaterial.toProto),
   ("dsseEnvelope", some b.dsseEnvelope.toProto)])

/-! ### The raw mirror -/

/-- The raw mirror of a promise. -/
def InclusionPromise.toRaw (p : InclusionPromise) : RawInclusionPromise :=
  ⟨Base64.encode p.signedEntryTimestamp⟩

/-- The raw mirror of a proof. -/
def InclusionProof.toRaw (p : InclusionProof) : RawInclusionProof :=
  ⟨decimal p.logIndex.toNat, Base64.encode p.rootHash, decimal p.treeSize.toNat,
    p.hashes.map Base64.encode, ⟨p.checkpoint.envelope⟩⟩

/-- The raw mirror of an entry. -/
def TlogEntry.toRaw (e : TlogEntry) : RawTlogEntry :=
  ⟨decimal e.logIndex.toNat, ⟨Base64.encode e.logIdKeyId⟩, ⟨e.kind, e.version⟩,
    decimal e.integratedTime.toNat, e.inclusionPromise.map InclusionPromise.toRaw,
    e.inclusionProof.map InclusionProof.toRaw, Base64.encode e.canonicalizedBody⟩

/-- The raw mirror of a timestamp. -/
def Rfc3161Timestamp.toRaw (t : Rfc3161Timestamp) : RawRfc3161Timestamp :=
  ⟨Base64.encode t.signedTimestamp⟩

/-- The raw mirror of the verification material. -/
def VerificationMaterial.toRaw (m : VerificationMaterial) : RawVerificationMaterial :=
  ⟨⟨Base64.encode m.certificate.rawBytes⟩, m.tlogEntries.map TlogEntry.toRaw,
    ⟨m.timestampVerificationData.rfc3161Timestamps.map Rfc3161Timestamp.toRaw⟩⟩

/-- The raw mirror of an envelope. -/
def DsseEnvelope.toRaw (e : DsseEnvelope) : RawDsseEnvelope :=
  ⟨Base64.encode e.payload, e.payloadType, [⟨Base64.encode e.signature.sig, e.signature.keyid⟩]⟩

/-- The raw mirror of a bundle. -/
def Bundle.toRaw (b : Bundle) : RawBundle :=
  ⟨b.mediaType, b.verificationMaterial.toRaw, b.dsseEnvelope.toRaw⟩

/-! ### Conversion undoes the raw mirror -/

/-- A promise is decoded from its mirror. -/
theorem InclusionPromise.fromRaw_toRaw (p : InclusionPromise) :
    InclusionPromise.fromRaw p.toRaw = .ok p := by
  simp [InclusionPromise.fromRaw, InclusionPromise.toRaw]

/-- A proof is decoded from its mirror, hash by hash. -/
theorem InclusionProof.fromRaw_toRaw (p : InclusionProof) :
    InclusionProof.fromRaw p.toRaw = .ok p := by
  have hhashes : (p.hashes.map Base64.encode).mapM (strictBase64 "inclusionProof.hashes[]")
      = .ok p.hashes := mapM_map_ok fun h _ => strictBase64_encode _ h
  simp [InclusionProof.fromRaw, InclusionProof.toRaw, hhashes]

/-- An entry is decoded from its mirror, with what it carries. -/
theorem TlogEntry.fromRaw_toRaw (e : TlogEntry) : TlogEntry.fromRaw e.toRaw = .ok e := by
  have hpromise : (e.inclusionPromise.map InclusionPromise.toRaw).mapM InclusionPromise.fromRaw
      = .ok e.inclusionPromise := optionMapM_map_ok fun p _ => p.fromRaw_toRaw
  have hproof : (e.inclusionProof.map InclusionProof.toRaw).mapM InclusionProof.fromRaw
      = .ok e.inclusionProof := optionMapM_map_ok fun p _ => p.fromRaw_toRaw
  simp [TlogEntry.fromRaw, TlogEntry.toRaw, hpromise, hproof]

/-- A timestamp is decoded from its mirror. -/
theorem Rfc3161Timestamp.fromRaw_toRaw (t : Rfc3161Timestamp) :
    Rfc3161Timestamp.fromRaw t.toRaw = .ok t := by
  simp [Rfc3161Timestamp.fromRaw, Rfc3161Timestamp.toRaw]

/-- Written material is read back, while there are not too many entries. -/
theorem VerificationMaterial.fromRaw_toRaw {m : VerificationMaterial}
    (hcount : m.tlogEntries.length ≤ maxTlogEntries) :
    VerificationMaterial.fromRaw m.toRaw = .ok m := by
  have hentries : (m.tlogEntries.map TlogEntry.toRaw).mapM TlogEntry.fromRaw
      = .ok m.tlogEntries := mapM_map_ok fun e _ => e.fromRaw_toRaw
  have htimestamps : (m.timestampVerificationData.rfc3161Timestamps.map
      Rfc3161Timestamp.toRaw).mapM Rfc3161Timestamp.fromRaw
      = .ok m.timestampVerificationData.rfc3161Timestamps := mapM_map_ok fun t _ => t.fromRaw_toRaw
  have hcount' : checkCount (m.tlogEntries.map TlogEntry.toRaw) maxTlogEntries .tooManyTlogEntries
      = .ok () := checkCount_eq_ok.mpr (by simpa using hcount)
  simp [VerificationMaterial.fromRaw, VerificationMaterial.toRaw, hcount', hentries, htimestamps,
    Certificate.fromRaw, TimestampVerificationData.fromRaw]

/-- An envelope is decoded from its mirror. -/
theorem DsseEnvelope.fromRaw_toRaw (e : DsseEnvelope) : DsseEnvelope.fromRaw e.toRaw = .ok e := by
  simp [DsseEnvelope.fromRaw, DsseEnvelope.toRaw, DsseSignature.fromRaw]

/-- A bundle of the right media type is decoded from its mirror. -/
theorem Bundle.fromRaw_toRaw {b : Bundle} (hmedia : b.mediaType = bundleMediaType)
    (hcount : b.verificationMaterial.tlogEntries.length ≤ maxTlogEntries) :
    Bundle.fromRaw b.toRaw = .ok b := by
  rw [Bundle.fromRaw, ensure_of (show b.toRaw.mediaType = bundleMediaType from hmedia)]
  simp [Bundle.toRaw, VerificationMaterial.fromRaw_toRaw hcount, DsseEnvelope.fromRaw_toRaw]

/-! ### What can be printed, and what can be read -/

/-- The string and byte fields that proto3 would omit are not empty. -/
structure InclusionProof.Printable (p : InclusionProof) : Prop where
  rootHash : p.rootHash ≠ []
  envelope : p.checkpoint.envelope ≠ []

/-- None of its strings and bytes is empty, nor any in the messages it carries. -/
structure TlogEntry.Printable (e : TlogEntry) : Prop where
  logIdKeyId : e.logIdKeyId ≠ []
  kind : e.kind ≠ []
  version : e.version ≠ []
  inclusionPromise : ∀ p, e.inclusionPromise = some p → p.signedEntryTimestamp ≠ []
  inclusionProof : ∀ p, e.inclusionProof = some p → p.Printable
  canonicalizedBody : e.canonicalizedBody ≠ []

/-- The parser's own conditions, and no string or bytes field that would be left out. -/
structure Bundle.Printable (b : Bundle) : Prop where
  mediaType : b.mediaType = bundleMediaType
  certificate : b.verificationMaterial.certificate.rawBytes ≠ []
  count : b.verificationMaterial.tlogEntries.length ≤ maxTlogEntries
  tlogEntries : ∀ e ∈ b.verificationMaterial.tlogEntries, e.Printable
  timestamps : ∀ t ∈ b.verificationMaterial.timestampVerificationData.rfc3161Timestamps,
    t.signedTimestamp ≠ []
  payload : b.dsseEnvelope.payload ≠ []
  payloadType : b.dsseEnvelope.payloadType ≠ []
  sig : b.dsseEnvelope.signature.sig ≠ []
  keyid : b.dsseEnvelope.signature.keyid ≠ some []

/-- No required integer is zero. -/
def InclusionProof.NoZero (p : InclusionProof) : Prop := p.logIndex ≠ 0 ∧ p.treeSize ≠ 0

/-- Neither the entry nor its proof has a zero integer. -/
def TlogEntry.NoZero (e : TlogEntry) : Prop :=
  e.logIndex ≠ 0 ∧ e.integratedTime ≠ 0 ∧ ∀ p, e.inclusionProof = some p → p.NoZero

/-- No entry has a zero integer. -/
def Bundle.NoZero (b : Bundle) : Prop := ∀ e ∈ b.verificationMaterial.tlogEntries, e.NoZero

/-! ### Reading what was printed -/

/-- A printed promise is read into its mirror. -/
theorem rawInclusionPromise_toProto {p : InclusionPromise} (h : p.signedEntryTimestamp ≠ []) :
    rawInclusionPromise p.toProto = some p.toRaw := by
  simp only [rawInclusionPromise, InclusionPromise.toProto, struct_object]
  rw [bytes_step h (by simp)]
  rfl

/-- A printed checkpoint is read back. -/
theorem rawCheckpoint_toProto {c : Checkpoint} (h : c.envelope ≠ []) :
    rawCheckpoint c.toProto = some ⟨c.envelope⟩ := by
  simp only [rawCheckpoint, Checkpoint.toProto, struct_object]
  rw [text_step h (by simp)]
  rfl

/-- A printed proof without zeros is read into its mirror. -/
theorem rawInclusionProof_toProto {p : InclusionProof} (hp : p.Printable) (hz : p.NoZero) :
    rawInclusionProof p.toProto = some p.toRaw := by
  simp only [rawInclusionProof, InclusionProof.toProto, struct_object]
  rw [uint64_step hz.1 (by simp), bytes_step hp.rootHash (by simp), uint64_step hz.2 (by simp),
    repeated_step (fun h => .string (Base64.encode h)) Base64.encode p.hashes (fun _ _ => rfl)
      (by simp),
    required_step (by simp) (rawCheckpoint_toProto hp.envelope)]
  rfl

/-- A proof with a zero index or size is refused. -/
theorem rawInclusionProof_zero {p : InclusionProof} (hp : p.Printable) (hz : ¬ p.NoZero) :
    rawInclusionProof p.toProto = none := by
  simp only [rawInclusionProof, InclusionProof.toProto, struct_object, Option.map_eq_none_iff]
  -- a zero is left out when printed, so the first one is the missing field
  by_cases hindex : p.logIndex = 0
  · exact uint64_missing hindex (by simp)
  · have hsize : p.treeSize = 0 := not_not.mp fun h => hz ⟨hindex, h⟩
    rw [uint64_step hindex (by simp), bytes_step hp.rootHash (by simp)]
    exact uint64_missing hsize (by simp)

/-- A printed log id is read back. -/
theorem rawLogId_toProto {b : Bytes} (h : b ≠ []) :
    rawLogId (.object (fields [("keyId", bytes b)])) = some ⟨Base64.encode b⟩ := by
  simp only [rawLogId, struct_object]
  rw [bytes_step h (by simp)]
  rfl

/-- A printed kind and version are read back. -/
theorem rawKindVersion_toProto {kind version : Str} (hk : kind ≠ []) (hv : version ≠ []) :
    rawKindVersion (.object (fields [("kind", text kind), ("version", text version)]))
      = some ⟨kind, version⟩ := by
  simp only [rawKindVersion, struct_object]
  rw [text_step hk (by simp), text_step hv (by simp)]
  rfl

/-- A printed entry without zeros is read into its mirror. -/
theorem rawTlogEntry_toProto {e : TlogEntry} (he : e.Printable) (hz : e.NoZero) :
    rawTlogEntry e.toProto = some e.toRaw := by
  simp only [rawTlogEntry, TlogEntry.toProto, struct_object]
  rw [uint64_step hz.1 (by simp),
    required_step (by simp) (rawLogId_toProto he.logIdKeyId),
    required_step (by simp) (rawKindVersion_toProto he.kind he.version),
    uint64_step hz.2.1 (by simp),
    optional_step InclusionPromise.toProto InclusionPromise.toRaw e.inclusionPromise nofun
      (fun p hp => rawInclusionPromise_toProto (he.inclusionPromise p hp)) (by simp),
    optional_step InclusionProof.toProto InclusionProof.toRaw e.inclusionProof nofun
      (fun p hp => rawInclusionProof_toProto (he.inclusionProof p hp) (hz.2.2 p hp)) (by simp),
    bytes_step he.canonicalizedBody (by simp)]
  rfl

/-- An entry with a zero among its required integers is refused. -/
theorem rawTlogEntry_zero {e : TlogEntry} (he : e.Printable) (hz : ¬ e.NoZero) :
    rawTlogEntry e.toProto = none := by
  simp only [rawTlogEntry, TlogEntry.toProto, struct_object, Option.map_eq_none_iff]
  by_cases hindex : e.logIndex = 0
  · exact uint64_missing hindex (by simp)
  rw [uint64_step hindex (by simp),
    required_step (by simp) (rawLogId_toProto he.logIdKeyId),
    required_step (by simp) (rawKindVersion_toProto he.kind he.version)]
  by_cases htime : e.integratedTime = 0
  · exact uint64_missing htime (by simp)
  rw [uint64_step htime (by simp),
    optional_step InclusionPromise.toProto InclusionPromise.toRaw e.inclusionPromise nofun
      (fun p hp => rawInclusionPromise_toProto (he.inclusionPromise p hp)) (by simp)]
  -- what is left to be zero is in the proof
  obtain ⟨p, hp, hpz⟩ : ∃ p, e.inclusionProof = some p ∧ ¬ p.NoZero := by
    by_contra hnone
    push Not at hnone
    exact hz ⟨hindex, htime, hnone⟩
  exact optional_mistyped InclusionProof.toProto nofun hp
    (rawInclusionProof_zero (he.inclusionProof p hp) hpz) (by simp)

/-- A printed timestamp is read into its mirror. -/
theorem rawRfc3161Timestamp_toProto {t : Rfc3161Timestamp} (h : t.signedTimestamp ≠ []) :
    rawRfc3161Timestamp t.toProto = some t.toRaw := by
  simp only [rawRfc3161Timestamp, Rfc3161Timestamp.toProto, struct_object]
  rw [bytes_step h (by simp)]
  rfl

/-- Written timestamps are deserialised, printed or left out. -/
theorem rawTimestampVerificationData_toProto {d : TimestampVerificationData}
    (h : ∀ t ∈ d.rfc3161Timestamps, t.signedTimestamp ≠ []) :
    rawTimestampVerificationData d.toProto
      = some ⟨d.rfc3161Timestamps.map Rfc3161Timestamp.toRaw⟩ := by
  simp only [rawTimestampVerificationData, TimestampVerificationData.toProto, struct_object]
  rw [repeated_step Rfc3161Timestamp.toProto Rfc3161Timestamp.toRaw d.rfc3161Timestamps
    (fun t ht => rawRfc3161Timestamp_toProto (h t ht)) (by simp)]
  rfl

/-- A printed certificate is read back. -/
theorem rawCertificate_toProto {c : Certificate} (h : c.rawBytes ≠ []) :
    rawCertificate c.toProto = some ⟨Base64.encode c.rawBytes⟩ := by
  simp only [rawCertificate, Certificate.toProto, struct_object]
  rw [bytes_step h (by simp)]
  rfl

/-- A printed signature is read back, with its `keyid` if it has one. -/
theorem rawDsseSignature_toProto {s : DsseSignature} (hsig : s.sig ≠ [])
    (hkeyid : s.keyid ≠ some []) :
    rawDsseSignature s.toProto = some ⟨Base64.encode s.sig, s.keyid⟩ := by
  simp only [rawDsseSignature, DsseSignature.toProto, struct_object]
  rw [bytes_step hsig (by simp)]
  -- proto3 leaves an unset `keyid` out, and the decoder defaults it
  cases hk : s.keyid with
  | none =>
    rw [defaulted_missing (by simp)]
    rfl
  | some keyid =>
    have hne : keyid ≠ [] := fun h => hkeyid (h ▸ hk)
    rw [defaulted_step (v := .string keyid) (a := some keyid) (by simp [text_of_ne hne]) rfl]
    rfl

/-- A printed envelope is read into its mirror. -/
theorem rawDsseEnvelope_toProto {e : DsseEnvelope} (hpayload : e.payload ≠ [])
    (htype : e.payloadType ≠ []) (hsig : e.signature.sig ≠ [])
    (hkeyid : e.signature.keyid ≠ some []) : rawDsseEnvelope e.toProto = some e.toRaw := by
  simp only [rawDsseEnvelope, DsseEnvelope.toProto, struct_object]
  have hsigs : seq rawDsseSignature (.array [e.signature.toProto])
      = some [⟨Base64.encode e.signature.sig, e.signature.keyid⟩] :=
    by simp [seq, rawDsseSignature_toProto hsig hkeyid]
  rw [bytes_step hpayload (by simp), text_step htype (by simp), defaulted_step (by simp) hsigs]
  rfl

/-- The printed material of a bundle without zeros is read into its mirror. -/
theorem rawVerificationMaterial_toProto {b : Bundle} (hb : b.Printable) (hz : b.NoZero) :
    rawVerificationMaterial b.verificationMaterial.toProto = some b.verificationMaterial.toRaw := by
  simp only [rawVerificationMaterial, VerificationMaterial.toProto, struct_object]
  rw [required_step (by simp) (rawCertificate_toProto hb.certificate),
    repeated_step TlogEntry.toProto TlogEntry.toRaw b.verificationMaterial.tlogEntries
      (fun e he => rawTlogEntry_toProto (hb.tlogEntries e he) (hz e he)) (by simp),
    defaulted_step (by simp) (rawTimestampVerificationData_toProto hb.timestamps)]
  rfl

/-- The printed material of a bundle with a zero in some entry is not read at all. -/
theorem rawVerificationMaterial_zero {b : Bundle} (hb : b.Printable) (hz : ¬ b.NoZero) :
    rawVerificationMaterial b.verificationMaterial.toProto = none := by
  simp only [rawVerificationMaterial, VerificationMaterial.toProto, struct_object,
    Option.map_eq_none_iff]
  -- one entry with a zero in it refuses the list
  obtain ⟨e, he, hez⟩ : ∃ e ∈ b.verificationMaterial.tlogEntries, ¬ e.NoZero := by
    by_contra hnone
    push Not at hnone
    exact hz hnone
  rw [required_step (by simp) (rawCertificate_toProto hb.certificate)]
  exact repeated_mistyped TlogEntry.toProto he (rawTlogEntry_zero (hb.tlogEntries e he) hez)
    (by simp)

/-- The raw decoder reads a printed bundle as its raw mirror. -/
theorem rawBundle_toProto {b : Bundle} (hb : b.Printable) (hz : b.NoZero) :
    rawBundle b.toProto = some b.toRaw := by
  have hmedia : b.mediaType ≠ [] := by rw [hb.mediaType]; decide
  simp only [rawBundle, Bundle.toProto, struct_object]
  rw [text_step hmedia (by simp), required_step (by simp) (rawVerificationMaterial_toProto hb hz),
    required_step (by simp)
      (rawDsseEnvelope_toProto hb.payload hb.payloadType hb.sig hb.keyid)]
  rfl

/-- One omitted zero makes the reader refuse the whole document. -/
theorem rawBundle_zero {b : Bundle} (hb : b.Printable) (hz : ¬ b.NoZero) :
    rawBundle b.toProto = none := by
  have hmedia : b.mediaType ≠ [] := by rw [hb.mediaType]; decide
  simp only [rawBundle, Bundle.toProto, struct_object, Option.map_eq_none_iff]
  rw [text_step hmedia (by simp)]
  exact required_mistyped (by simp) (rawVerificationMaterial_zero hb hz)

/-! ### Strictness -/

/-- The JSON of a promise repeats no name. -/
theorem InclusionPromise.strict_toProto (p : InclusionPromise) : p.toProto.Strict :=
  strict_fields (by simp) (by simp)

/-- The JSON of a proof repeats no name. -/
theorem InclusionProof.strict_toProto (p : InclusionProof) : p.toProto.Strict := by
  have hhashes : StrictField (repeated (p.hashes.map fun h => .string (Base64.encode h))) :=
    strictField_repeated fun _ _ => strict_string _
  have hcheckpoint : p.checkpoint.toProto.Strict := strict_fields (by simp) (by simp)
  exact strict_fields (by simp) (by simp [hhashes, hcheckpoint])

/-- The JSON of an entry repeats no name. -/
theorem TlogEntry.strict_toProto (e : TlogEntry) : e.toProto.Strict := by
  have hlogId : (Value.object (fields [("keyId", bytes e.logIdKeyId)])).Strict :=
    strict_fields (by simp) (by simp)
  have hkind :
      (Value.object (fields [("kind", text e.kind), ("version", text e.version)])).Strict :=
    strict_fields (by simp) (by simp)
  have hpromise : StrictField (e.inclusionPromise.map InclusionPromise.toProto) :=
    strictField_map fun p _ => p.strict_toProto
  have hproof : StrictField (e.inclusionProof.map InclusionProof.toProto) :=
    strictField_map fun p _ => p.strict_toProto
  refine strict_fields (by simp) ?_
  simp only [List.forall_mem_cons, strictField_some]
  exact ⟨strictField_uint64 _, hlogId, hkind, strictField_uint64 _, hpromise, hproof,
    strictField_bytes _, List.forall_mem_nil _⟩

/-- The JSON of the material repeats no name. -/
theorem VerificationMaterial.strict_toProto (m : VerificationMaterial) : m.toProto.Strict := by
  have hcertificate : m.certificate.toProto.Strict := strict_fields (by simp) (by simp)
  have hentries : StrictField (repeated (m.tlogEntries.map TlogEntry.toProto)) :=
    strictField_repeated fun e _ => e.strict_toProto
  have htimestamps : m.timestampVerificationData.toProto.Strict := by
    refine strict_fields (by simp) ?_
    simp only [List.forall_mem_cons]
    exact ⟨strictField_repeated fun t _ => strict_fields (by simp) (by simp),
      List.forall_mem_nil _⟩
  exact strict_fields (by simp) (by simp [hcertificate, hentries, htimestamps])

/-- The JSON of an envelope repeats no name. -/
theorem DsseEnvelope.strict_toProto (e : DsseEnvelope) : e.toProto.Strict := by
  have hkeyid : StrictField (e.signature.keyid.bind text) := by
    cases e.signature.keyid with
    | none => simp [StrictField]
    | some k => exact strictField_text k
  have hsig : e.signature.toProto.Strict := strict_fields (by simp) (by simp [hkeyid])
  refine strict_fields (by simp) ?_
  simp only [List.forall_mem_cons, strictField_some, strict_array]
  exact ⟨strictField_bytes _, strictField_text _, ⟨hsig, List.forall_mem_nil _⟩,
    List.forall_mem_nil _⟩

/-- The JSON of a bundle repeats no name. -/
theorem Bundle.strict_toProto (b : Bundle) : b.toProto.Strict :=
  strict_fields (by simp)
    (by simp [b.verificationMaterial.strict_toProto, b.dsseEnvelope.strict_toProto])

/-! ### The round trip -/

section RoundTrip

variable {X : Externals} {b : Bundle} {text : Bytes}

/-- `text` is a printed form of `b`, within the parser's limits. -/
structure Bundle.IsPrinted (X : Externals) (b : Bundle) (text : Bytes) : Prop where
  printable : b.Printable
  reading : X.readJson text = ⟨b.toProto.toTree, true⟩
  size : text.length ≤ maxInputBytes
  nodes : b.toProto.toTree.nodes ≤ maxJsonNodes

/-- Parsing a printed bundle comes down to its raw decoding. -/
theorem fromJson_toProto (h : b.IsPrinted X text) :
    Bundle.fromJson X text = (fromValue rawBundle b.toProto).bind Bundle.fromRaw := by
  have hsize : checkInputSize text = .ok () := checkInputSize_eq_ok.mpr h.size
  have hparse : parseStrict X text = .ok b.toProto :=
    parseStrict_eq_ok.mpr ⟨h.reading, b.strict_toProto, h.nodes⟩
  rw [Bundle.fromJson, hsize, ok_bind, hparse, ok_bind]
  rfl

/-- With a zero among its integers, the document is refused as malformed JSON. -/
theorem fromJson_toProto_zero (h : b.IsPrinted X text) (hz : ¬ b.NoZero) :
    Bundle.fromJson X text = .error (.parse .json) := by
  rw [fromJson_toProto h, fromValue, rawBundle_zero h.printable hz]
  rfl

/-- **A printed bundle is read back exactly when it has no zero integer.** -/
theorem fromJson_toProto_iff (h : b.IsPrinted X text) :
    Bundle.fromJson X text = .ok b ↔ b.NoZero := by
  constructor
  · intro hok
    by_contra hz
    rw [fromJson_toProto_zero h hz] at hok
    simp at hok
  · intro hz
    rw [fromJson_toProto h, fromValue, rawBundle_toProto h.printable hz]
    exact Bundle.fromRaw_toRaw h.printable.mediaType h.printable.count

end RoundTrip

/-! ### The first entry of a log -/

/-- A bundle whose entry has log index 0. -/
def firstEntrySample : Bundle where
  mediaType := bundleMediaType
  verificationMaterial :=
    { certificate := ⟨[0]⟩
      tlogEntries := [⟨0, [0], "dsse".toList, "0.0.1".toList, 1, none, none, [0]⟩]
      timestampVerificationData := ⟨[]⟩ }
  dsseEnvelope := ⟨[0], "t".toList, ⟨[0], none⟩⟩

/-- The protojson text of the sample. -/
def firstEntryText : Bytes :=
  utf8 ("\x7b\"mediaType\":\"application/vnd.dev.sigstore.bundle.v0.3+json\",".toList ++
    "\"verificationMaterial\":\x7b\"certificate\":\x7b\"rawBytes\":\"AA==\"\x7d,".toList ++
    "\"tlogEntries\":[\x7b\"logId\":\x7b\"keyId\":\"AA==\"\x7d,".toList ++
    "\"kindVersion\":\x7b\"kind\":\"dsse\",\"version\":\"0.0.1\"\x7d,".toList ++
    "\"integratedTime\":\"1\",\"canonicalizedBody\":\"AA==\"\x7d],".toList ++
    "\"timestampVerificationData\":\x7b\x7d\x7d,".toList ++
    "\"dsseEnvelope\":\x7b\"payload\":\"AA==\",\"payloadType\":\"t\",".toList ++
    "\"signatures\":[\x7b\"sig\":\"AA==\"\x7d]\x7d\x7d".toList)

/-- A reader that knows that text. -/
def firstEntryExternals : Externals :=
  .ofTexts [(firstEntryText, ⟨firstEntrySample.toProto.toTree, true⟩)]

/-- The bundle can be printed. -/
private theorem firstEntrySample_printable : firstEntrySample.Printable where
  mediaType := rfl
  certificate := nofun
  count := by decide
  tlogEntries := by
    intro e he
    obtain rfl := List.mem_singleton.mp he
    exact ⟨nofun, nofun, nofun, nofun, nofun, nofun⟩
  timestamps := nofun
  payload := nofun
  payloadType := nofun
  sig := nofun
  keyid := nofun

set_option maxRecDepth 4000 in
/-- The sample's text is within the size limit. -/
private theorem length_firstEntryText : firstEntryText.length ≤ maxInputBytes := by
  have hbound : 3200 ≤ maxInputBytes := by decide
  refine le_trans ?_ hbound
  rw [firstEntryText]
  iterate 7 refine length_utf8_append_le ?_ (length_utf8_literal_le (n := 400) _ (by decide))
  exact length_utf8_literal_le _ (by decide)

/-- The text is the bundle's printed form. -/
theorem isPrinted_firstEntry : firstEntrySample.IsPrinted firstEntryExternals firstEntryText where
  printable := firstEntrySample_printable
  reading := readJson_ofTexts_head _ _ _
  size := length_firstEntryText
  nodes := by decide +kernel

/-- The sample's log index is zero. -/
private theorem firstEntrySample_zero : ¬ firstEntrySample.NoZero :=
  fun h => (h _ List.mem_cons_self).1 rfl

/-- The first entry of a log does not survive the round trip. -/
theorem firstEntry_refused :
    firstEntrySample.IsPrinted firstEntryExternals firstEntryText ∧
      Bundle.fromJson firstEntryExternals firstEntryText = .error (.parse .json) :=
  ⟨isPrinted_firstEntry, fromJson_toProto_zero isPrinted_firstEntry firstEntrySample_zero⟩

/-- Whether the text is read back is whether the bundle has no zero. -/
theorem fromJson_firstEntry_iff :
    Bundle.fromJson firstEntryExternals firstEntryText = .ok firstEntrySample ↔
      firstEntrySample.NoZero :=
  fromJson_toProto_iff isPrinted_firstEntry

end AttestationVerify
