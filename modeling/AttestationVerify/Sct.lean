import AttestationVerify.X509
import Mathlib.Tactic.NormNum

namespace AttestationVerify

open Wire Wire.Rfc3339

/-!
# Embedded SCTs

`sct.rs`: the SCT list of a validated leaf, the precertificate each SCT signs, and the check of one
SCT against the trust store's CT logs.

* `parseSctList` — the TLS encoding, read through a cursor;
* `verifyOneSct` — log selection, the window check, the algorithm fields and the signature;
* `verifyEmbeddedScts` — at least one SCT verifies;
* `window_exact_iff` — when the window check agrees with the exact instants of the trusted root.
-/

/-- The one version of an SCT. -/
def sctVersionV1 : UInt8 := 0

/-- TLS's code for SHA-256. -/
def hashAlgorithmSha256 : UInt8 := 4

/-- TLS's code for ECDSA. -/
def signatureAlgorithmEcdsa : UInt8 := 3

/-- The type of a signature over a timestamp. -/
def signatureTypeCertificateTimestamp : UInt8 := 0

/-- The type of an entry that is a precertificate. -/
def logEntryTypePrecert : ℕ := 1

/-- `[3] EXPLICIT`, constructed. -/
def extensionsContextTag : UInt8 := 0xA3

/-- The fields of an SCT. -/
structure ParsedSct where
  version : UInt8
  logId : Octets 32
  timestampMs : UInt64
  extensions : Bytes
  hashAlgorithm : UInt8
  signatureAlgorithm : UInt8
  signature : Bytes
  deriving DecidableEq

/-- The one error of every malformed SCT. -/
def sctInvalid : Error := .certificate .sctInvalid

/-! ### The TLS encoding -/

/-- `n` in `k` bytes, most significant first. -/
def toBeBytes : ℕ → ℕ → Bytes
  | 0, _ => []
  | k + 1, n => toBeBytes k (n / 256) ++ [UInt8.ofNat n]

/-- A big-endian number. -/
def fromBeBytes (b : Bytes) : ℕ := b.foldl (fun n x => n * 256 + x.toNat) 0

/-- A reader of the bytes still to come. -/
abbrev Cursor := StateT Bytes (Except Error)

/-- Takes so many bytes off the front, or fails. -/
def take (n : ℕ) : Cursor Bytes := fun cursor =>
  if cursor.length < n then .error sctInvalid else .ok (cursor.splitAt n)

/-- One byte. -/
def takeU8 : Cursor UInt8 := do
  let b ← take 1
  pure (b.getD 0 0)

/-- A 16-bit number. -/
def takeU16 : Cursor ℕ := do
  let b ← take 2
  pure (fromBeBytes b)

/-- A 64-bit number. -/
def takeU64 : Cursor UInt64 := do
  let b ← take 8
  pure (UInt64.ofNat (fromBeBytes b))

/-- A digest. -/
def takeArray32 : Cursor (Octets 32) := do
  let b ← take 32
  okOr (toOctets 32 b) sctInvalid

/-- Bytes under a two-byte length. -/
def takeVector : Cursor Bytes := do
  let len ← takeU16
  take len

/-- `parse_single_sct`: field by field, with nothing left over. -/
def parseSingleSct (bytes : Bytes) : Except Error ParsedSct := do
  let fields : Cursor ParsedSct := do
    let version ← takeU8
    let logId ← takeArray32
    let timestampMs ← takeU64
    let extensions ← takeVector
    let hashAlgorithm ← takeU8
    let signatureAlgorithm ← takeU8
    let signature ← takeVector
    pure ⟨version, logId, timestampMs, extensions, hashAlgorithm, signatureAlgorithm, signature⟩
  let (sct, cursor) ← fields bytes
  ensure (cursor = []) sctInvalid
  pure sct

/-- What is taken and what is left make up what there was. -/
theorem take_eq_ok {n : ℕ} {cursor cursor' b : Bytes} (h : take n cursor = .ok (b, cursor')) :
    cursor = b ++ cursor' ∧ b.length = n := by
  unfold take at h
  split at h
  · cases h
  · simp only [List.splitAt_eq, Except.ok.injEq, Prod.mk.injEq] at h
    obtain ⟨rfl, rfl⟩ := h
    exact ⟨(List.take_append_drop n cursor).symm, by simp; omega⟩

/-- Every length-prefixed item uses up at least its prefix. -/
theorem takeVector_length_lt {cursor cursor' b : Bytes}
    (h : takeVector cursor = .ok (b, cursor')) : cursor'.length < cursor.length := by
  unfold takeVector takeU16 at h
  simp only [bind, StateT.bind, Except.bind] at h
  split at h
  · cases h
  · rename_i p hp
    split at hp
    · cases hp
    · rename_i q hq
      obtain ⟨rfl⟩ := hp
      obtain ⟨htwo, hlength⟩ := take_eq_ok hq
      obtain ⟨hitem, -⟩ := take_eq_ok h
      rw [htwo, hitem]
      simp only [List.length_append]
      omega

/-- The loop of `parse_sct_list`. -/
def parseScts (cursor : Bytes) : Except Error (List ParsedSct) :=
  if cursor = [] then .ok []
  else
    match _h : takeVector cursor with
    | .error e => .error e
    | .ok (sctBytes, cursor') => do
      let sct ← parseSingleSct sctBytes
      let scts ← parseScts cursor'
      pure (sct :: scts)
  termination_by cursor.length
  decreasing_by exact takeVector_length_lt _h

/-- `parse_sct_list`: the outer length covers exactly the rest. -/
def parseSctList (bytes : Bytes) : Except Error (List ParsedSct) := do
  let (listLen, cursor) ← takeU16 bytes
  ensure (listLen = cursor.length) sctInvalid
  parseScts cursor

/-! ### What an SCT signs -/

/-- The outer of the two octet strings around the list is the extension value itself. -/
def extractSctListBytes (X : Externals) (tbs : TbsCertificate) : Except Error Bytes := do
  let ext ← findExtension (extensionsSlice tbs) sctListOid
  let ext ← okOr ext (.certificate .sctMissing)
  okOr (X.der.octetString ext.extnValue) invalidDer

/-- The encoded `TBSCertificate` without its SCT list extension. -/
def precertTbsDer (X : Externals) (tbsDer : Bytes) : Except Error Bytes := do
  -- the extensions are the last field of the certificate, under an explicit tag
  let fields ← okOr (X.der.anySequence tbsDer) invalidDer
  let extField ← okOr fields.getLast?
    (.certificate (.invalidDer (.text "TBSCertificate has no fields".toList)))
  ensure (extField.tag = extensionsContextTag)
    (.certificate (.invalidDer (.text
      "TBSCertificate's last field is not a [3] EXPLICIT extensions wrapper".toList)))
  let extensions ← okOr (X.der.extensions extField.value) invalidDer
  let filtered := extensions.filter (·.extnId ≠ sctListOid)
  let filteredDer ← okOr (X.der.extensionsToDer filtered) invalidDer
  let newExtField ← okOr (X.der.anyNew extensionsContextTag filteredDer) invalidDer
  okOr (X.der.anySequenceToDer (fields.dropLast ++ [newExtField])) invalidDer

/-- `digitally_signed_bytes`: the two lengths are checked before the message is built. -/
def digitallySignedBytes (timestampMs : UInt64) (issuerKeyHash : Octets 32)
    (precertTbs ctExtensions : Bytes) : Except Error Bytes := do
  ensure (precertTbs.length ≤ 0x00FFFFFF) sctInvalid
  ensure (ctExtensions.length < 2 ^ 16) sctInvalid
  pure (sctVersionV1 :: signatureTypeCertificateTimestamp :: (toBeBytes 8 timestampMs.toNat ++
    toBeBytes 2 logEntryTypePrecert ++ issuerKeyHash.bytes ++ toBeBytes 3 precertTbs.length ++
    precertTbs ++ toBeBytes 2 ctExtensions.length ++ ctExtensions))

/-! ### Verification -/

/-- The first CT log whose key hashes to the SCT's log id; the document's own label is not
    consulted. -/
def selectCtLog (X : Externals) (trustStore : TrustStore) (logId : Octets 32) : Option CtLog :=
  trustStore.ctlogs.find? fun log => X.sha256 log.publicKey.rawBytes = logId

/-- `verify_one_sct`: the log, its window, the algorithms, then the signature. -/
def verifyOneSct (X : Externals) (sct : ParsedSct) (precertTbs : Bytes) (issuerKeyHash : Octets 32)
    (trustStore : TrustStore) : Except Error Unit := do
  let ctlog ← okOr (selectCtLog X trustStore sct.logId) (.certificate .unknownCtLog)
  ensure (sct.timestampMs.toNat / 1000 < 2 ^ 63) sctInvalid
  let timestampSeconds : ℤ := (sct.timestampMs.toNat / 1000 : ℕ)
  ensure (withinValidFor timestampSeconds ctlog.publicKey.validFor)
    (.certificate .sctOutsideKeyValidity)
  ensure (sct.version = sctVersionV1 ∧ sct.hashAlgorithm = hashAlgorithmSha256 ∧
    sct.signatureAlgorithm = signatureAlgorithmEcdsa) sctInvalid
  let message ← digitallySignedBytes sct.timestampMs issuerKeyHash precertTbs sct.extensions
  let logKey ← EcdsaVerifyingKey.fromSpkiDer X ctlog.publicKey.rawBytes
  ensure (logKey.verifyDer X message sct.signature) sctInvalid

/-- The loop of `verify_embedded_scts`; `firstError` is the first failure so far. -/
def tryScts (X : Externals) (precertTbs : Bytes) (issuerKeyHash : Octets 32)
    (trustStore : TrustStore) : List ParsedSct → Option Error → Except Error Unit
  | [], firstError => .error (firstError.getD sctInvalid)
  -- the first success wins, and the first error is the one reported
  | sct :: rest, firstError =>
    match verifyOneSct X sct precertTbs issuerKeyHash trustStore with
    | .ok () => .ok ()
    | .error e =>
      tryScts X precertTbs issuerKeyHash trustStore rest (firstError.or (some e))

/-- `verify_embedded_scts`: all SCTs are parsed, and the first that verifies will do. -/
def verifyEmbeddedScts (X : Externals) (validated : ValidatedLeaf) (trustStore : TrustStore) :
    Except Error Unit := do
  let tbs := validated.leaf.tbsCertificate
  let sctListBytes ← extractSctListBytes X tbs
  let scts ← parseSctList sctListBytes
  ensure (scts ≠ []) (.certificate .sctMissing)
  let tbsDer ← okOr tbs.der invalidDer
  let precertTbs ← precertTbsDer X tbsDer
  let issuerKeyHash := X.sha256 validated.issuerSpkiDer
  tryScts X precertTbs issuerKeyHash trustStore scts none

/-! ### What the checks accept -/

section Accepts

variable {X : Externals} {sct : ParsedSct} {precertTbs : Bytes} {issuerKeyHash : Octets 32}
  {trustStore : TrustStore}

/-- `log` signed the SCT for this precertificate, at a time within its window. -/
structure SctSigned (X : Externals) (sct : ParsedSct) (precertTbs : Bytes)
    (issuerKeyHash : Octets 32) (log : CtLog) : Prop where
  window : withinValidFor ((sct.timestampMs.toNat / 1000 : ℕ) : ℤ) log.publicKey.validFor
  version : sct.version = sctVersionV1
  hashAlgorithm : sct.hashAlgorithm = hashAlgorithmSha256
  signatureAlgorithm : sct.signatureAlgorithm = signatureAlgorithmEcdsa
  signed : ∃ message key, digitallySignedBytes sct.timestampMs issuerKeyHash precertTbs
      sct.extensions = .ok message ∧
    EcdsaVerifyingKey.fromSpkiDer X log.publicKey.rawBytes = .ok key ∧
    key.verifyDer X message sct.signature = true

/-- A millisecond count of 64 bits is a second count of 63. -/
theorem timestampMs_seconds_lt (sct : ParsedSct) : sct.timestampMs.toNat / 1000 < 2 ^ 63 := by
  have hlt := sct.timestampMs.toNat_lt
  omega

/-- An SCT passes when the log selected for it signed it. -/
theorem verifyOneSct_eq_ok {u : Unit} :
    verifyOneSct X sct precertTbs issuerKeyHash trustStore = .ok u ↔
      ∃ log, selectCtLog X trustStore sct.logId = some log ∧
        SctSigned X sct precertTbs issuerKeyHash log := by
  simp only [verifyOneSct, bind_eq_ok, okOr_eq_ok, ensure_eq_ok]
  constructor
  · intro h
    obtain ⟨log, hlog, _, -, _, hwindow, _, ⟨hversion, hhash, halgorithm⟩, message, hmessage, key,
      hkey, hverify⟩ := h
    exact ⟨log, hlog, hwindow, hversion, hhash, halgorithm, message, key, hmessage, hkey, hverify⟩
  · intro h
    obtain ⟨log, hlog, hwindow, hversion, hhash, halgorithm, message, key, hmessage, hkey,
      hverify⟩ := h
    exact ⟨log, hlog, (), timestampMs_seconds_lt sct, (), hwindow, (),
      ⟨hversion, hhash, halgorithm⟩, message, hmessage, key, hkey, hverify⟩

/-- One good SCT is enough, whatever failed before it. -/
theorem tryScts_eq_ok {scts : List ParsedSct} {firstError : Option Error} {u : Unit} :
    tryScts X precertTbs issuerKeyHash trustStore scts firstError = .ok u ↔
      ∃ sct ∈ scts, verifyOneSct X sct precertTbs issuerKeyHash trustStore = .ok () := by
  induction scts generalizing firstError with
  | nil => simp [tryScts]
  | cons sct rest ih =>
    unfold tryScts
    split
    · rename_i h
      simp [h]
    · rename_i e h
      simp [ih, h]

/-- The leaf's own SCT list has an SCT that a log of the trust store signed for its
    precertificate. -/
def HasSignedSct (X : Externals) (validated : ValidatedLeaf) (trustStore : TrustStore) : Prop :=
  ∃ sctListBytes scts tbsDer precertTbs,
    extractSctListBytes X validated.leaf.tbsCertificate = .ok sctListBytes ∧
    parseSctList sctListBytes = .ok scts ∧ validated.leaf.tbsCertificate.der = some tbsDer ∧
    precertTbsDer X tbsDer = .ok precertTbs ∧
    ∃ sct ∈ scts, ∃ log, selectCtLog X trustStore sct.logId = some log ∧
      SctSigned X sct precertTbs (X.sha256 validated.issuerSpkiDer) log

/-- A leaf passes when it has such an SCT. -/
theorem verifyEmbeddedScts_eq_ok {validated : ValidatedLeaf} {u : Unit} :
    verifyEmbeddedScts X validated trustStore = .ok u ↔
      HasSignedSct X validated trustStore := by
  simp only [verifyEmbeddedScts, bind_eq_ok, okOr_eq_ok, ensure_eq_ok, tryScts_eq_ok,
    verifyOneSct_eq_ok]
  constructor
  · intro h
    obtain ⟨sctListBytes, hbytes, scts, hscts, _, -, tbsDer, htbs, precertTbs, hprecert, hsct⟩ := h
    exact ⟨sctListBytes, scts, tbsDer, precertTbs, hbytes, hscts, htbs, hprecert, hsct⟩
  · intro h
    obtain ⟨sctListBytes, scts, tbsDer, precertTbs, hbytes, hscts, htbs, hprecert, hsct⟩ := h
    have hne : scts ≠ [] := List.ne_nil_of_mem hsct.choose_spec.1
    exact ⟨sctListBytes, hbytes, scts, hscts, (), hne, tbsDer, htbs, precertTbs, hprecert, hsct⟩

end Accepts

/-! ### Exact windows -/

/-- A window with rational bounds, half-open. -/
def ExactlyWithin (start : ℚ) (end_ : Option ℚ) (t : ℚ) : Prop := start ≤ t ∧ ∀ e ∈ end_, t < e

/-- `t` lies between the instant `q` and the whole second `q` is rounded up to. -/
def InRoundingGap (q t : ℚ) : Prop := q ≤ t ∧ t < ⌈q⌉

/-- Rounding both bounds up moves a window exactly over the gaps at its two ends. -/
theorem ceil_window_iff {start t : ℚ} {end_ : Option ℚ} :
    ((⌈start⌉ ≤ t ∧ ∀ e ∈ end_, t < ⌈e⌉) ↔ ExactlyWithin start end_ t) ↔
      ¬ (InRoundingGap start t ∧ ∀ e ∈ end_, t < e) ∧
        ¬ (⌈start⌉ ≤ t ∧ ∃ e ∈ end_, InRoundingGap e t) := by
  have hstart : start ≤ ⌈start⌉ := Int.le_ceil start
  have hend : ∀ e ∈ end_, t < e → t < ⌈e⌉ := fun e _ h => h.trans_le (Int.le_ceil e)
  unfold ExactlyWithin InRoundingGap
  constructor
  · intro hiff
    refine ⟨fun ⟨⟨hle, hlt⟩, hbefore⟩ => ?_, fun ⟨hle, e, he, hafter, hlt⟩ => ?_⟩
    · -- in the gap at the start the exact window is open already
      exact absurd (hiff.mpr ⟨hle, hbefore⟩).1 (not_le.mpr hlt)
    · -- in the gap at the end the rounded one is still open
      have hbefore : ∀ d ∈ end_, t < ⌈d⌉ := fun d hd => by
        rwa [← Option.mem_unique he hd]
      exact absurd ((hiff.mp ⟨hle, hbefore⟩).2 e he) (not_lt.mpr hafter)
  · intro h
    obtain ⟨hnostart, hnoend⟩ := h
    constructor
    · intro h
      obtain ⟨hle, hbefore⟩ := h
      refine ⟨hstart.trans hle, fun e he => ?_⟩
      by_contra hafter
      exact hnoend ⟨hle, e, he, not_lt.mp hafter, hbefore e he⟩
    · intro h
      obtain ⟨hle, hbefore⟩ := h
      refine ⟨?_, fun e he => hend e he (hbefore e he)⟩
      by_contra hlt
      exact hnostart ⟨⟨hle, not_le.mp hlt⟩, hbefore⟩

/-- The instant an SCT names, in seconds. -/
def ParsedSct.instant (sct : ParsedSct) : ℚ := sct.timestampMs.toNat / 1000

/-- A whole second is at or before the timestamp's second exactly when it is at or before the
    instant. -/
theorem le_seconds_iff {sct : ParsedSct} {z : ℤ} :
    z ≤ ((sct.timestampMs.toNat / 1000 : ℕ) : ℤ) ↔ (z : ℚ) ≤ sct.instant := by
  rw [ParsedSct.instant, le_div_iff₀ (by norm_num)]
  norm_cast
  omega

/-- The whole seconds are after a whole second exactly when the milliseconds are. -/
theorem seconds_lt_iff {sct : ParsedSct} {z : ℤ} :
    ((sct.timestampMs.toNat / 1000 : ℕ) : ℤ) < z ↔ sct.instant < z := by
  rw [← not_le, le_seconds_iff, not_le]

/-- What a parsed window is, in terms of the instants its texts spell. -/
theorem ValidityPeriod.fromRaw_of_spells {raw : RawValidFor} {window : ValidityPeriod} {start : ℚ}
    {end_ : Option ℚ} (h : ValidityPeriod.fromRaw raw = .ok window)
    (hstart : Spells raw.start start) (hend : Option.Rel Spells raw.end_ end_) :
    window.start = ⌈start⌉ ∧ window.end_ = end_.map Int.ceil := by
  simp only [ValidityPeriod.fromRaw, bind_eq_ok, pure_eq_ok, Except.ok.injEq] at h
  obtain ⟨s, hs, e, he, rfl⟩ := h
  obtain ⟨rawStart, rawEnd⟩ := raw
  have hs' : parseRfc3339 "validFor.start" rawStart = .ok ⌈start⌉ :=
    parseRfc3339_eq_ok.mpr ⟨start, hstart, rfl⟩
  refine ⟨by simpa [hs] using hs', ?_⟩
  cases hend with
  | none => simpa using he.symm
  | @some rawEnd q hspell =>
    have he' : parseRfc3339 "validFor.end" rawEnd = .ok ⌈q⌉ :=
      parseRfc3339_eq_ok.mpr ⟨q, hspell, rfl⟩
    simpa [he', Functor.map, Except.map] using he.symm

section Window

variable {X : Externals} {sct : ParsedSct} {trustStore : TrustStore} {log : CtLog}

/-- The check did not stop at the log's window. -/
def PassesWindowCheck (X : Externals) (sct : ParsedSct) (precertTbs : Bytes)
    (issuerKeyHash : Octets 32) (trustStore : TrustStore) : Prop :=
  verifyOneSct X sct precertTbs issuerKeyHash trustStore ≠
    .error (.certificate .sctOutsideKeyValidity)

/-- The message is refused only for its lengths. -/
theorem digitallySignedBytes_eq_error {timestampMs : UInt64} {issuerKeyHash : Octets 32}
    {precertTbs ctExtensions : Bytes} {e : Error} :
    digitallySignedBytes timestampMs issuerKeyHash precertTbs ctExtensions = .error e ↔
      (2 ^ 24 ≤ precertTbs.length ∨ 2 ^ 16 ≤ ctExtensions.length) ∧ e = sctInvalid := by
  simp only [digitallySignedBytes, bind_eq_error, ensure_eq_error, ensure_eq_ok, pure_eq_ok,
    reduceCtorEq, and_false, exists_false, or_false]
  constructor
  · rintro (⟨hprecert, rfl⟩ | ⟨_, _, hextensions, rfl⟩)
    · exact ⟨.inl (Nat.lt_of_not_le hprecert), rfl⟩
    · exact ⟨.inr (Nat.le_of_not_lt hextensions), rfl⟩
  · rintro ⟨hlong, rfl⟩
    -- the precertificate is looked at first
    by_cases hprecert : precertTbs.length ≤ 0x00FFFFFF
    · have hextensions := hlong.resolve_left (Nat.not_le_of_lt (Nat.lt_succ_of_le hprecert))
      exact .inr ⟨(), hprecert, Nat.not_lt_of_le hextensions, rfl⟩
    · exact .inl ⟨hprecert, rfl⟩

/-- A key that is refused is refused for its algorithm. -/
theorem fromSpkiDer_error {spkiDer : Bytes} {e : Error}
    (h : EcdsaVerifyingKey.fromSpkiDer X spkiDer = .error e) :
    e = .certificate .unsupportedKeyAlgorithm := by
  unfold EcdsaVerifyingKey.fromSpkiDer at h
  split at h
  · cases h
  · split at h
    · cases h
    · exact (Except.error.inj h).symm

/-- Once a log is selected, only its window decides whether the check stops there. -/
theorem passesWindowCheck_iff (precertTbs : Bytes) (issuerKeyHash : Octets 32)
    (hlog : selectCtLog X trustStore sct.logId = some log) :
    PassesWindowCheck X sct precertTbs issuerKeyHash trustStore ↔
      withinValidFor ((sct.timestampMs.toNat / 1000 : ℕ) : ℤ) log.publicKey.validFor := by
  unfold PassesWindowCheck verifyOneSct
  rw [hlog, okOr_some, ok_bind, ensure_of (timestampMs_seconds_lt sct), ok_bind]
  dsimp only
  by_cases hwindow : withinValidFor ((sct.timestampMs.toNat / 1000 : ℕ) : ℤ) log.publicKey.validFor
  · refine iff_of_true (fun h => ?_) hwindow
    simp only [bind_eq_error, ensure_eq_error, ensure_eq_ok] at h
    rcases h with ⟨hnot, -⟩ | ⟨-, -, ⟨-, h⟩ | ⟨-, -, h | ⟨message, -, h | ⟨key, -, -, h⟩⟩⟩⟩
    · exact hnot hwindow
    · cases h
    · cases (digitallySignedBytes_eq_error.mp h).2
    · cases fromSpkiDer_error h
    · cases h
  · rw [ensure_not hwindow, error_bind]
    exact iff_of_false (fun h => h rfl) hwindow

/-- The window check of the selected log agrees with the exact instants. -/
def WindowIsExact (X : Externals) (sct : ParsedSct) (precertTbs : Bytes)
    (issuerKeyHash : Octets 32) (trustStore : TrustStore) (start : ℚ) (end_ : Option ℚ) : Prop :=
  PassesWindowCheck X sct precertTbs issuerKeyHash trustStore ↔
    ExactlyWithin start end_ sct.instant

/-- **When SCT windows are exact.**  Boundaries are rounded up and the evidence, in milliseconds, is
    rounded down: the check is wrong exactly on the evidence between a boundary and the whole
    second above it. -/
theorem windowIsExact_iff {raw : RawTlog} {start : ℚ} {end_ : Option ℚ} (precertTbs : Bytes)
    (issuerKeyHash : Octets 32) (hlog : selectCtLog X trustStore sct.logId = some log)
    (hraw : CtLog.fromRaw raw = .ok log)
    (hstart : Spells raw.publicKey.validFor.start start)
    (hend : Option.Rel Spells raw.publicKey.validFor.end_ end_) :
    WindowIsExact X sct precertTbs issuerKeyHash trustStore start end_ ↔
      ¬ (InRoundingGap start sct.instant ∧ ∀ e ∈ end_, sct.instant < e) ∧
        ¬ (⌈start⌉ ≤ sct.instant ∧ ∃ e ∈ end_, InRoundingGap e sct.instant) := by
  simp only [CtLog.fromRaw, PublicKey.fromRaw, bind_eq_ok, pure_eq_ok, Except.ok.injEq] at hraw
  obtain ⟨_, ⟨_, -, window, hwindow, rfl⟩, _, -, rfl⟩ := hraw
  obtain ⟨hs, he⟩ := ValidityPeriod.fromRaw_of_spells hwindow hstart hend
  rw [WindowIsExact, passesWindowCheck_iff precertTbs issuerKeyHash hlog, ← ceil_window_iff]
  simp only [withinValidFor, hs, he, le_seconds_iff, Option.mem_map, forall_exists_index, and_imp,
    forall_apply_eq_imp_iff₂, seconds_lt_iff]

/-! ### A boundary of the embedded root -/

/-- A log whose window ends at `2022-10-31T23:59:59.999Z`. -/
private def retiredRaw : RawTlog where
  baseUrl := []
  hashAlgorithm := []
  publicKey := ⟨[], [], "2021-03-14T00:00:00.000Z".toList, some "2022-10-31T23:59:59.999Z".toList⟩
  logId := ⟨[]⟩
  checkpointKeyId := none

/-- The CT log of the retired shard, as it is read. -/
private def retiredLog : CtLog where
  baseUrl := []
  hashAlgorithm := []
  publicKey := ⟨[], [], 1615680000, some 1667260800⟩
  logIdKeyId := []

/-- The trust store of that log alone. -/
private def retiredStore : TrustStore := ⟨[], [], [retiredLog], [], [], [], []⟩

/-- An SCT of the given millisecond under the all-zero log id. -/
private def sctAt (timestampMs : UInt64) : ParsedSct :=
  ⟨0, Octets.zero 32, timestampMs, [], 4, 3, []⟩

/-- The log's start is a whole second. -/
private theorem spells_retiredStart : Spells "2021-03-14T00:00:00.000Z".toList 1615680000 := by
  refine ⟨⟨2021, 3, 14, false, 0, 0, 0, some [0, 0, 0], .utc false⟩, ?_, by decide, ?_⟩
  · constructor <;> simp [monthLength, Zone.Valid]
  · simp [Stamp.instant, Stamp.wholeSeconds, dayNumber, daysBeforeYear_eq, daysThroughMonth,
      monthLength, IsLeap, epochDay_eq, Zone.offset, fractionValue, value]

/-- The log's end is a millisecond before one. -/
private theorem spells_retiredEnd :
    Spells "2022-10-31T23:59:59.999Z".toList (1667260799999 / 1000) := by
  refine ⟨⟨2022, 10, 31, false, 23, 59, 59, some [9, 9, 9], .utc false⟩, ?_, by decide, ?_⟩
  · constructor <;> simp [monthLength, Zone.Valid]
  · simp [Stamp.instant, Stamp.wholeSeconds, dayNumber, daysBeforeYear_eq, daysThroughMonth,
      monthLength, IsLeap, epochDay_eq, Zone.offset, fractionValue, value]
    norm_num

/-- The retired log is selected for the SCT. -/
private theorem selectCtLog_retired (timestampMs : UInt64) :
    selectCtLog (.ofTexts []) retiredStore (sctAt timestampMs).logId = some retiredLog := by
  simp [selectCtLog, retiredStore, sctAt, Externals.ofTexts]

/-- The retired log is read with its end rounded up. -/
private theorem fromRaw_retired : CtLog.fromRaw retiredRaw = .ok retiredLog := by
  have hceil : ⌈(1667260799999 / 1000 : ℚ)⌉ = 1667260800 := by
    rw [Int.ceil_eq_iff]; norm_num
  have hstart : parseRfc3339 "validFor.start" "2021-03-14T00:00:00.000Z".toList = .ok 1615680000 :=
    parseRfc3339_eq_ok.mpr ⟨_, spells_retiredStart, (Int.ceil_ofNat _).symm⟩
  have hend : parseRfc3339 "validFor.end" "2022-10-31T23:59:59.999Z".toList = .ok 1667260800 :=
    parseRfc3339_eq_ok.mpr ⟨_, spells_retiredEnd, hceil.symm⟩
  simp only [CtLog.fromRaw, PublicKey.fromRaw, ValidityPeriod.fromRaw, retiredRaw, bind_eq_ok,
    pure_eq_ok, Except.ok.injEq, strictBase64_eq_ok]
  have hend' : (some "2022-10-31T23:59:59.999Z".toList).mapM (parseRfc3339 "validFor.end")
      = .ok (some 1667260800) := by rw [Option.mapM_some, hend]; rfl
  exact ⟨_, ⟨[], rfl, _, ⟨_, hstart, _, hend', rfl⟩, rfl⟩, [], rfl, rfl⟩

/-- The test is exact for an SCT of one second before the window's end. -/
theorem windowIsExact_retired_iff :
    WindowIsExact (.ofTexts []) (sctAt 1667260798999) [] (Octets.zero 32) retiredStore
        1615680000 (some (1667260799999 / 1000)) ↔
      ¬ (InRoundingGap 1615680000 (sctAt 1667260798999).instant ∧
          ∀ e ∈ some (1667260799999 / 1000), (sctAt 1667260798999).instant < e) ∧
        ¬ (⌈(1615680000 : ℚ)⌉ ≤ (sctAt 1667260798999).instant ∧
          ∃ e ∈ some (1667260799999 / 1000), InRoundingGap e (sctAt 1667260798999).instant) :=
  windowIsExact_iff [] _ (selectCtLog_retired _) fromRaw_retired spells_retiredStart
    (.some spells_retiredEnd)

/-- **A retired key still counts.**  An SCT of the very millisecond the log's window ends passes. -/
theorem not_windowIsExact_retired :
    CtLog.fromRaw retiredRaw = .ok retiredLog ∧
      Spells retiredRaw.publicKey.validFor.start 1615680000 ∧
      Option.Rel Spells retiredRaw.publicKey.validFor.end_ (some (1667260799999 / 1000)) ∧
      ¬ WindowIsExact (.ofTexts []) (sctAt 1667260799999) [] (Octets.zero 32)
        retiredStore 1615680000 (some (1667260799999 / 1000)) := by
  refine ⟨fromRaw_retired, spells_retiredStart, .some spells_retiredEnd, fun hexact => ?_⟩
  have hpasses : PassesWindowCheck (.ofTexts []) (sctAt 1667260799999) []
      (Octets.zero 32) retiredStore :=
    (passesWindowCheck_iff [] _ (selectCtLog_retired _)).mpr (by decide)
  have hwithin := hexact.mp hpasses
  have hlt : (sctAt 1667260799999).instant < 1667260799999 / 1000 := hwithin.2 _ rfl
  have hms : (sctAt 1667260799999).timestampMs.toNat = 1667260799999 := rfl
  rw [ParsedSct.instant, hms] at hlt
  norm_num at hlt

end Window

end AttestationVerify
